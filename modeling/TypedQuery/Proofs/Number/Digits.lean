import Mathlib.Algebra.Group.Nat.Defs
import TypedQuery.Proofs.Value.Text

/-!
# Digits of a width

A number that is padded with zeros to a width still reads as itself, in base ten
(`digitsValue_padded`) and in base sixteen (`exists_hexValues_padded`).
-/

namespace TypedQuery.Number

variable {width n : Nat} {cs ds rest : List Char}

/-! ## Padding -/

theorem length_zeroPadded (h : cs.length ≤ width) : (zeroPadded width cs).length = width := by
  rw [zeroPadded, List.length_append, List.length_replicate]
  omega

theorem mem_zeroPadded {c : Char} (h : c ∈ zeroPadded width cs) : c = '0' ∨ c ∈ cs :=
  (List.mem_append.1 h).imp_left List.eq_of_mem_replicate

/-! ## Decimal digits -/

theorem digitsValue_eq_ofDigitChars (cs : List Char) :
    digitsValue cs = Nat.ofDigitChars 10 cs 0 := Nat.ofDigitChars_eq_foldl.symm

@[simp] theorem digitsValue_toDigits (n : Nat) : digitsValue (Nat.toDigits 10 n) = n :=
  (digitsValue_eq_ofDigitChars _).trans Nat.ofDigitChars_ten_toDigits

/-- A number in decimal digits, with zeros in front up to a width. -/
def padded (width n : Nat) : List Char := zeroPadded width (Nat.toDigits 10 n)

@[simp] theorem digitsValue_padded (width n : Nat) : digitsValue (padded width n) = n := by
  rw [digitsValue_eq_ofDigitChars, padded, zeroPadded, Nat.ofDigitChars_append,
    Nat.ofDigitChars_replicate_zero, Nat.mul_zero, Nat.ofDigitChars_ten_toDigits]

theorem isDigit_of_mem_padded {c : Char} (h : c ∈ padded width n) : c.isDigit = true := by
  rcases mem_zeroPadded h with rfl | h
  · rfl
  · exact isDigit_of_mem_toDigits h

theorem length_padded (hwidth : 0 < width) (hn : n < 10 ^ width) :
    (padded width n).length = width :=
  length_zeroPadded ((Nat.length_toDigits_le_iff (by decide) hwidth).2 hn)

theorem padded_ne_nil (width n : Nat) : padded width n ≠ [] :=
  fun h => Nat.toDigits_ne_nil (List.append_eq_nil_iff.1 h).2

/-! ## Digits at the front of a text -/

/-- Whether a run of digits ends where a text begins. -/
def EndsDigits (rest : List Char) : Prop := ∀ c ∈ rest.head?, c.isDigit = false

theorem endsDigits_nil : EndsDigits [] := nofun

theorem endsDigits_cons {c : Char} (h : c.isDigit = false) (rest : List Char) :
    EndsDigits (c :: rest) := by
  intro d hd
  obtain rfl := Option.some.inj hd
  exact h

/-- What is taken ends where the test fails first. -/
theorem takeWhile_append_of_head? {p : Char → Bool} (hall : ∀ c ∈ ds, p c = true)
    (hrest : ∀ c ∈ rest.head?, p c = false) : (ds ++ rest).takeWhile p = ds := by
  rw [List.takeWhile_append_of_pos hall]
  cases rest with
  | nil => exact List.append_nil ds
  | cons c rest =>
    rw [List.takeWhile_cons_of_neg (by simp [hrest c rfl]), List.append_nil]

theorem takeWhile_isDigit_append (hdigits : ∀ c ∈ ds, c.isDigit = true) (hrest : EndsDigits rest) :
    (ds ++ rest).takeWhile Char.isDigit = ds := takeWhile_append_of_head? hdigits hrest

theorem dropWhile_isDigit_append (hdigits : ∀ c ∈ ds, c.isDigit = true) (hrest : EndsDigits rest) :
    (ds ++ rest).dropWhile Char.isDigit = rest := by
  rw [List.dropWhile_append_of_pos hdigits]
  cases rest with
  | nil => rfl
  | cons c rest => rw [List.dropWhile_cons_of_neg (by simp [hrest c rfl])]

/-! ## Hexadecimal digits -/

theorem hexValue?_digitChar {d : Nat} (h : d < 16) : Json.hexValue? d.digitChar = some d := by
  have hall : ∀ d : Fin 16, Json.hexValue? d.val.digitChar = some d.val := by decide
  exact hall ⟨d, h⟩

theorem not_blank_of_mem_hexDigits {c : Char} (h : c ∈ Text.hexDigits n) :
    Text.isBlank c = false := by
  have hall : ∀ d : Fin 16, Text.isBlank d.val.digitChar = false := by decide
  unfold Text.hexDigits at h
  induction n using Nat.strongRecOn with
  | ind n ih =>
    rw [Nat.toDigits_eq_if (by decide)] at h
    split at h
    · rename_i hsmall
      obtain rfl := List.mem_singleton.1 h
      exact hall ⟨n, hsmall⟩
    · rcases List.mem_append.1 h with h | h
      · exact ih (n / 16) (by omega) h
      · obtain rfl := List.mem_singleton.1 h
        exact hall ⟨n % 16, Nat.mod_lt n (by decide)⟩

/-- What a run of hexadecimal digits stands for. -/
def hexValue (ds : List Nat) : Nat := ds.foldl (fun n d => 16 * n + d) 0

theorem hexValue_append_singleton (ds : List Nat) (d : Nat) :
    hexValue (ds ++ [d]) = 16 * hexValue ds + d := by
  rw [hexValue, List.foldl_append]
  rfl

theorem hexValue_replicate_append (k : Nat) (ds : List Nat) :
    hexValue (List.replicate k 0 ++ ds) = hexValue ds := by
  induction k with
  | zero => rfl
  | succ k ih => exact ih

theorem exists_hexValues_hexDigits (n : Nat) :
    ∃ ds, (Text.hexDigits n).mapM Json.hexValue? = some ds ∧ hexValue ds = n := by
  unfold Text.hexDigits
  induction n using Nat.strongRecOn with
  | ind n ih =>
    rw [Nat.toDigits_eq_if (by decide)]
    split
    · rename_i hsmall
      refine ⟨[n], ?_, Nat.zero_add n⟩
      rw [List.mapM_cons, hexValue?_digitChar hsmall]
      rfl
    · obtain ⟨ds, hds, hvalue⟩ := ih (n / 16) (by omega)
      refine ⟨ds ++ [n % 16], ?_, ?_⟩
      · rw [List.mapM_append, hds, List.mapM_cons,
          hexValue?_digitChar (Nat.mod_lt n (by decide))]
        rfl
      · rw [hexValue_append_singleton, hvalue]
        omega

theorem mapM_hexValue?_replicate (k : Nat) :
    (List.replicate k '0').mapM Json.hexValue? = some (List.replicate k 0) := by
  induction k with
  | zero => rfl
  | succ k ih =>
    rw [List.replicate_succ, List.mapM_cons, ih]
    rfl

/-- With zeros in front the digits stand for the same number. -/
theorem exists_hexValues_padded (width n : Nat) :
    ∃ ds, (zeroPadded width (Text.hexDigits n)).mapM Json.hexValue? = some ds ∧
      hexValue ds = n := by
  obtain ⟨ds, hds, hvalue⟩ := exists_hexValues_hexDigits n
  refine ⟨List.replicate (width - (Text.hexDigits n).length) 0 ++ ds, ?_, ?_⟩
  · rw [zeroPadded, List.mapM_append, mapM_hexValue?_replicate, hds]
    rfl
  · rw [hexValue_replicate_append, hvalue]

end TypedQuery.Number
