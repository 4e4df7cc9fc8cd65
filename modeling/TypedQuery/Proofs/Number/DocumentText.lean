import TypedQuery.Proofs.Number.Digits
import TypedQuery.Proofs.Number.Shortest

/-!
# Floating-point numbers in documents

The text of a number in a document has a sign and a body, and the body is one of three kinds of
decimals: a zero, digits with a point among or behind them, and digits with an exponent.  Whichever it
is, it stands for the shortest digits (`isBody_documentBody`), and since a decimal is taken for
one number only, the text determines the number: `documentText?_injective`.

A body begins with a digit, consists of the characters of numbers, and has a point or an exponent in
it, by which it is told from an integer.
-/

namespace TypedQuery.Number

/-! ## What a decimal stands for -/

/-- What a decimal without a sign stands for: digits, a point with digits behind it, and an exponent,
where the last two may be missing. -/
def decimalValue (cs : List Char) : ℚ :=
  let whole := cs.takeWhile Char.isDigit
  let (fraction, rest) := match cs.dropWhile Char.isDigit with
    | '.' :: rest => (rest.takeWhile Char.isDigit, rest.dropWhile Char.isDigit)
    | rest => ([], rest)
  scaled (digitsValue (whole ++ fraction), (readExponent? rest).getD 0 - fraction.length)

section Decimal

variable {ds fs rest : List Char} {e : Int}

theorem decimalValue_point (hds : ∀ c ∈ ds, c.isDigit = true) (hfs : ∀ c ∈ fs, c.isDigit = true)
    (hrest : EndsDigits rest) (he : readExponent? rest = some e) :
    decimalValue (ds ++ '.' :: (fs ++ rest)) = scaled (digitsValue (ds ++ fs), e - fs.length) := by
  have hpoint : EndsDigits ('.' :: (fs ++ rest)) := endsDigits_cons rfl _
  simp only [decimalValue, takeWhile_isDigit_append hds hpoint, dropWhile_isDigit_append hds hpoint,
    takeWhile_isDigit_append hfs hrest, dropWhile_isDigit_append hfs hrest, he, Option.getD_some]

theorem decimalValue_plain (hds : ∀ c ∈ ds, c.isDigit = true) (hrest : EndsDigits rest)
    (hpoint : rest.head? ≠ some '.') (he : readExponent? rest = some e) :
    decimalValue (ds ++ rest) = scaled (digitsValue ds, e) := by
  unfold decimalValue
  rw [takeWhile_isDigit_append hds hrest, dropWhile_isDigit_append hds hrest]
  split
  rename_i fraction tail hsplit
  split at hsplit
  · exact absurd rfl hpoint
  · obtain ⟨rfl, rfl⟩ := Prod.mk.inj hsplit
    simp [he]

end Decimal

/-! ## Bodies -/

/-- An exponent with its letter and its sign. -/
def exponentText (e : Int) : List Char :=
  'e' :: (if e < 0 then '-' else '+') :: Nat.toDigits 10 e.natAbs

/-- The text of a number without its sign, and what it stands for. -/
inductive IsBody : List Char → ℚ → Prop
  | point {ds fs : List Char} : ds ≠ [] → (∀ c ∈ ds, c.isDigit = true) →
    (∀ c ∈ fs, c.isDigit = true) → IsBody (ds ++ '.' :: fs) (scaled (digitsValue (ds ++ fs), -fs.length))
  | exponent {ds : List Char} (e : Int) : ds ≠ [] → (∀ c ∈ ds, c.isDigit = true) →
    IsBody (ds ++ exponentText e) (scaled (digitsValue ds, e))
  | both {ds fs : List Char} (e : Int) : ds ≠ [] → (∀ c ∈ ds, c.isDigit = true) →
    (∀ c ∈ fs, c.isDigit = true) →
    IsBody (ds ++ '.' :: (fs ++ exponentText e)) (scaled (digitsValue (ds ++ fs), e - fs.length))

/-- The characters of numbers. -/
def isNumberChar (c : Char) : Bool := c.isDigit || c == '-' || c == '+' || c == '.' || c == 'e'

theorem isNumberChar_of_isDigit {c : Char} (h : c.isDigit = true) : isNumberChar c = true := by
  simp [isNumberChar, h]

theorem endsDigits_exponentText (e : Int) : EndsDigits (exponentText e) := endsDigits_cons rfl _

theorem readExponent?_exponentText (e : Int) : readExponent? (exponentText e) = some e := by
  change readInt? ((if e < 0 then '-' else '+') :: Nat.toDigits 10 e.natAbs) = some e
  split
  · have hneg : -(e.natAbs : Int) = e := by omega
    rw [readInt?, readNat?_toDigits]
    exact congrArg some hneg
  · have hpos : (e.natAbs : Int) = e := by omega
    rw [readInt?, readNat?_toDigits]
    exact congrArg some hpos

theorem isNumberChar_of_mem_exponentText {e : Int} {c : Char} (h : c ∈ exponentText e) :
    isNumberChar c = true := by
  rcases List.mem_cons.1 h with rfl | h
  · rfl
  rcases List.mem_cons.1 h with rfl | h
  · split <;> rfl
  · exact isNumberChar_of_isDigit (isDigit_of_mem_toDigits h)

namespace IsBody

variable {cs : List Char} {q : ℚ}

theorem decimalValue_eq (h : IsBody cs q) : decimalValue cs = q := by
  cases h with
  | point _ hds hfs =>
    have hvalue := decimalValue_point hds hfs endsDigits_nil rfl
    rwa [List.append_nil, zero_sub] at hvalue
  | exponent e _ hds =>
    exact decimalValue_plain hds (endsDigits_exponentText e) nofun (readExponent?_exponentText e)
  | both e _ hds hfs =>
    exact decimalValue_point hds hfs (endsDigits_exponentText e) (readExponent?_exponentText e)

/-- A body begins with a digit. -/
theorem exists_cons (h : IsBody cs q) : ∃ c rest, cs = c :: rest ∧ c.isDigit = true := by
  have hfirst {ds rest : List Char} (hne : ds ≠ []) (hds : ∀ c ∈ ds, c.isDigit = true) :
      ∃ c tail, ds ++ rest = c :: tail ∧ c.isDigit = true := by
    cases ds with
    | nil => exact absurd rfl hne
    | cons c ds => exact ⟨c, ds ++ rest, rfl, hds c (List.mem_cons_self ..)⟩
  cases h with
  | point hne hds | exponent _ hne hds | both _ hne hds => exact hfirst hne hds

theorem isNumberChar_of_mem (h : IsBody cs q) {c : Char} (hc : c ∈ cs) : isNumberChar c = true := by
  cases h with
  | point _ hds hfs =>
    rcases List.mem_append.1 hc with hc | hc
    · exact isNumberChar_of_isDigit (hds c hc)
    rcases List.mem_cons.1 hc with rfl | hc
    · rfl
    · exact isNumberChar_of_isDigit (hfs c hc)
  | exponent e _ hds =>
    rcases List.mem_append.1 hc with hc | hc
    · exact isNumberChar_of_isDigit (hds c hc)
    · exact isNumberChar_of_mem_exponentText hc
  | both e _ hds hfs =>
    rcases List.mem_append.1 hc with hc | hc
    · exact isNumberChar_of_isDigit (hds c hc)
    rcases List.mem_cons.1 hc with rfl | hc
    · rfl
    rcases List.mem_append.1 hc with hc | hc
    · exact isNumberChar_of_isDigit (hfs c hc)
    · exact isNumberChar_of_mem_exponentText hc

/-- A body is no run of digits. -/
theorem exists_not_digit (h : IsBody cs q) : ∃ c ∈ cs, c = '.' ∨ c = 'e' := by
  cases h with
  | point | both => exact ⟨'.', by simp, Or.inl rfl⟩
  | exponent => exact ⟨'e', by simp [exponentText], Or.inr rfl⟩

end IsBody

/-! ## Digits with a point -/

theorem digitsValue_zeros_append (k : Nat) (cs : List Char) :
    digitsValue (List.replicate k '0' ++ cs) = digitsValue cs := by
  rw [digitsValue_eq_ofDigitChars, Nat.ofDigitChars_append, Nat.ofDigitChars_replicate_zero,
    Nat.mul_zero, ← digitsValue_eq_ofDigitChars]

theorem digitsValue_append_zeros (cs : List Char) (k : Nat) :
    digitsValue (cs ++ List.replicate k '0') = digitsValue cs * 10 ^ k := by
  rw [digitsValue_eq_ofDigitChars, Nat.ofDigitChars_append, Nat.ofDigitChars_replicate_zero,
    ← digitsValue_eq_ofDigitChars, Nat.mul_comm]

theorem isDigit_of_mem_replicate_zero {k : Nat} {c : Char} (h : c ∈ List.replicate k '0') :
    c.isDigit = true := by
  rw [List.eq_of_mem_replicate h]
  rfl

/-- Digits and a power of ten below one, with the point in its place. -/
theorem isBody_positional_of_neg {cs : List Char} {g : Int} (hdigits : ∀ c ∈ cs, c.isDigit = true)
    (hg : g < 0) : IsBody (positional cs g) (scaled (digitsValue cs, g)) := by
  have hplaces : -((-g).toNat : Int) = g := by omega
  rw [positional, if_neg (by omega)]
  dsimp only
  split
  · rename_i hshort
    have hzero : ∀ c ∈ ['0'], c.isDigit = true := List.forall_mem_singleton.2 rfl
    have hfraction : ∀ c ∈ zeroPadded (-g).toNat cs, c.isDigit = true := by
      intro c hc
      rcases mem_zeroPadded hc with rfl | hc
      · rfl
      · exact hdigits c hc
    have hvalue : digitsValue (['0'] ++ zeroPadded (-g).toNat cs) = digitsValue cs := by
      rw [zeroPadded, ← List.append_assoc, ← List.replicate_one, List.replicate_append_replicate,
        digitsValue_zeros_append]
    have hbody := IsBody.point (List.cons_ne_nil '0' []) hzero hfraction
    rw [hvalue, length_zeroPadded hshort, hplaces] at hbody
    exact hbody
  · rename_i hlong
    have htake : cs.take (cs.length - (-g).toNat) ≠ [] := by
      intro hnil
      have hlength := congrArg List.length hnil
      rw [List.length_take, List.length_nil] at hlength
      omega
    have hdrop : (cs.drop (cs.length - (-g).toNat)).length = (-g).toNat := by
      rw [List.length_drop]
      omega
    have hfraction : ∀ c ∈ cs.drop (cs.length - (-g).toNat), c.isDigit = true :=
      fun c hc => hdigits c (List.mem_of_mem_drop hc)
    have hbody := IsBody.point htake (fun c hc => hdigits c (List.mem_of_mem_take hc)) hfraction
    rw [List.take_append_drop, hdrop, hplaces] at hbody
    rwa [List.append_assoc]

/-- Digits and a power of ten that is not below one, with a point and a zero behind them. -/
theorem isBody_positional_of_nonneg {cs : List Char} {g : Int} (hne : cs ≠ [])
    (hdigits : ∀ c ∈ cs, c.isDigit = true) (hg : 0 ≤ g) :
    IsBody (positional cs g ++ ['.', '0']) (scaled (digitsValue cs, g)) := by
  have hzero : ∀ c ∈ ['0'], c.isDigit = true := List.forall_mem_singleton.2 rfl
  have hwhole : ∀ c ∈ cs ++ List.replicate g.toNat '0', c.isDigit = true := by
    intro c hc
    rcases List.mem_append.1 hc with hc | hc
    · exact hdigits c hc
    · exact isDigit_of_mem_replicate_zero hc
  have hvalue : scaled (digitsValue (cs ++ List.replicate g.toNat '0' ++ ['0']), -(['0'].length : Int)) =
      scaled (digitsValue cs, g) := by
    rw [List.append_assoc, ← List.replicate_one, List.replicate_append_replicate,
      digitsValue_append_zeros, scaled, scaled]
    have hpower : (10 : ℚ) ^ g = 10 ^ (g.toNat + 1) * 10 ^ (-1 : Int) := by
      have hexponent : ((g.toNat + 1 : Nat) : Int) + -1 = g := by omega
      rw [← zpow_natCast, ← zpow_add₀ (by norm_num), hexponent]
    change ((digitsValue cs * 10 ^ (g.toNat + 1) : Nat) : ℚ) * 10 ^ (-1 : Int) = _
    push_cast
    rw [hpower, mul_assoc]
  have hbody := IsBody.point (List.append_ne_nil_of_left_ne_nil hne _) hwhole hzero
  rw [hvalue] at hbody
  rwa [positional, if_pos hg]

theorem scientific_cons (c : Char) (fs : List Char) (e : Int) :
    scientific (c :: fs) e = c :: ((if fs.isEmpty then [] else '.' :: fs) ++ exponentText e) := by
  unfold scientific exponentText
  by_cases hneg : e < 0 <;> simp [hneg]

/-- Digits with a point after the first and an exponent after them. -/
theorem isBody_scientific {cs : List Char} {g : Int} (hne : cs ≠ [])
    (hdigits : ∀ c ∈ cs, c.isDigit = true) :
    IsBody (scientific cs (cs.length + g - 1)) (scaled (digitsValue cs, g)) := by
  cases cs with
  | nil => exact absurd rfl hne
  | cons c fs =>
    have hfirst : ∀ d ∈ [c], d.isDigit = true :=
      List.forall_mem_singleton.2 (hdigits c (List.mem_cons_self ..))
    have hrest : ∀ d ∈ fs, d.isDigit = true := fun d hd => hdigits d (List.mem_cons_of_mem _ hd)
    rw [scientific_cons, List.length_cons]
    cases hfs : fs.isEmpty with
    | true =>
      obtain rfl := List.isEmpty_iff.1 hfs
      have hexponent : ((([] : List Char).length + 1 : Nat) : Int) + g - 1 = g := by simp
      rw [hexponent]
      exact .exponent g (List.cons_ne_nil _ _) hfirst
    | false =>
      have hexponent : ((fs.length + 1 : Nat) : Int) + g - 1 - fs.length = g := by omega
      have hbody := IsBody.both (((fs.length + 1 : Nat) : Int) + g - 1) (List.cons_ne_nil c [])
        hfirst hrest
      rw [hexponent] at hbody
      exact hbody

/-! ## The text of a number -/

/-- The text of the number with the given digits, without a sign. -/
def documentBody (dg : Nat × Int) : List Char :=
  let cs := Nat.toDigits 10 dg.1
  let exponent := cs.length + dg.2 - 1
  if dg.1 = 0 then ['0', '.', '0']
  else if -5 ≤ exponent && exponent < 16 then
    positional cs dg.2 ++ (if 0 ≤ dg.2 then ['.', '0'] else [])
  else scientific cs exponent

theorem isBody_documentBody (dg : Nat × Int) : IsBody (documentBody dg) (scaled dg) := by
  obtain ⟨d, g⟩ := dg
  have hdigits : ∀ c ∈ Nat.toDigits 10 d, c.isDigit = true := fun _ => isDigit_of_mem_toDigits
  unfold documentBody
  dsimp only
  split
  · rename_i hzero
    have hdigit : ∀ c ∈ ['0'], c.isDigit = true := List.forall_mem_singleton.2 rfl
    have hvalue : scaled (digitsValue (['0'] ++ ['0']), -(['0'].length : Int)) = scaled (d, g) := by
      rw [hzero, scaled, scaled]
      simp [digitsValue, digitValue]
    exact hvalue ▸ IsBody.point (List.cons_ne_nil '0' []) hdigit hdigit
  split
  · have hvalue : digitsValue (Nat.toDigits 10 d) = d := digitsValue_toDigits d
    split
    · have hbody := isBody_positional_of_nonneg Nat.toDigits_ne_nil hdigits ‹0 ≤ g›
      rwa [hvalue] at hbody
    · have hbody := isBody_positional_of_neg hdigits (show g < 0 by omega)
      rwa [hvalue, ← List.append_nil (positional _ _)] at hbody
  · have hbody := isBody_scientific (g := g) Nat.toDigits_ne_nil hdigits
    rwa [digitsValue_toDigits] at hbody

theorem documentText?_eq (x : Float) :
    documentText? x = (binary? x).map fun b =>
      (if b.negative then "-" else "") ++ String.ofList (documentBody (b.shortest .toEven)) := rfl

/-- A finite number is written as a sign and a body that stands for it. -/
theorem exists_documentText? {x : Float} (h : x.isFinite = true) :
    ∃ b cs q, binary? x = some b ∧ IsBody cs q ∧ b.Takes q ∧
      documentText? x = some (String.ofList (if b.negative then '-' :: cs else cs)) := by
  obtain ⟨b, hb⟩ := exists_binary? h
  refine ⟨b, documentBody (b.shortest .toEven), scaled (b.shortest .toEven), hb,
    isBody_documentBody _, b.takes_shortest .toEven, ?_⟩
  rw [documentText?_eq, hb, Option.map_some]
  refine congrArg some (String.toList_injective ?_)
  rw [String.toList_append, String.toList_ofList, String.toList_ofList]
  split <;> rfl

/-- The text of a finite number determines it, minus zero and zero told apart. -/
theorem documentText?_injective {x y : Float} (hx : x.isFinite = true) (hy : y.isFinite = true)
    (h : documentText? x = documentText? y) : x = y := by
  obtain ⟨a, cs, p, ha, hcs, hap, hxtext⟩ := exists_documentText? hx
  obtain ⟨b, ds, q, hb, hds, hbq, hytext⟩ := exists_documentText? hy
  rw [hxtext, hytext, Option.some_inj] at h
  have htext := String.ofList_injective h
  have hsign : a.negative = b.negative ∧ cs = ds := by
    obtain ⟨c, cs, rfl, hc⟩ := hcs.exists_cons
    obtain ⟨d, ds, rfl, hd⟩ := hds.exists_cons
    have hminus {c : Char} (hc : c.isDigit = true) : '-' ≠ c := by
      rintro rfl
      exact absurd hc (by decide)
    cases hna : a.negative <;> cases hnb : b.negative <;> simp only [hna, hnb] at htext
    · exact ⟨rfl, htext⟩
    · exact absurd (List.cons.inj htext).1.symm (hminus hc)
    · exact absurd (List.cons.inj htext).1 (hminus hd)
    · exact ⟨rfl, (List.cons.inj htext).2⟩
  obtain ⟨hnegative, rfl⟩ := hsign
  have hvalue : p = q := hcs.decimalValue_eq.symm.trans hds.decimalValue_eq
  exact float_eq_of_takes ha hb hnegative hap (hvalue ▸ hbq)

end TypedQuery.Number
