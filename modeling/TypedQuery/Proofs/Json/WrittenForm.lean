import TypedQuery.Json.Printer
import TypedQuery.Proofs.Json.Equality
import TypedQuery.Proofs.Number.DocumentText

/-!
# The written form of documents

A document is determined by its text: `Json.text_injective`.  The text stands among others where the
document is an item or a field, so what is proved by induction says more: in front of anything that
ends a document, the text of one tells which document it is and where it ends (`Told`).  Strings end
with a quote, and what is in them is cut into escapes in one way only (`eq_of_prefix_escapedChar`);
numbers end where their characters do, and everything else in brackets.  The first character tells
these apart.
-/

namespace TypedQuery.Json

open TypedQuery.Number

/-! ## Telling texts apart -/

section Telling

variable {α : Type} {f : α → List Char}

/-- Whether nothing follows that could belong to the text of a number. -/
def EndsNumber (rest : List Char) : Prop := ∀ c ∈ rest.head?, isNumberChar c = false

theorem endsNumber_nil : EndsNumber [] := nofun

theorem endsNumber_cons {c : Char} (h : isNumberChar c = false) (rest : List Char) :
    EndsNumber (c :: rest) := by
  intro d hd
  obtain rfl := Option.some.inj hd
  exact h

/-- Whether the text of a thing, with more text behind it, tells which thing it is and where it
ends. -/
def Told (f : α → List Char) (a : α) : Prop :=
  ∀ b s t, EndsNumber s → EndsNumber t → f a ++ s = f b ++ t → a = b ∧ s = t

/-- Things with commas between them. -/
def joined (f : α → List Char) (as : List α) : List Char := [','].intercalate (as.map f)

/-- Things with a comma in front of each. -/
def following (f : α → List Char) (as : List α) : List Char := as.flatMap fun a => ',' :: f a

theorem joined_cons (f : α → List Char) (a : α) (as : List α) :
    joined f (a :: as) = f a ++ following f as := by
  induction as generalizing a with
  | nil => simp [joined, following]
  | cons b as ih =>
    have hnext : joined f (a :: b :: as) = f a ++ ',' :: joined f (b :: as) := by
      rw [joined, List.map_cons, List.map_cons, List.intercalate_cons_cons, List.append_assoc]
      rfl
    rw [hnext, ih]
    rfl

theorem endsNumber_following {close : Char} (hclose : isNumberChar close = false)
    (f : α → List Char) (as : List α) (s : List Char) :
    EndsNumber (following f as ++ close :: s) := by
  cases as with
  | nil => exact endsNumber_cons hclose s
  | cons a as => exact endsNumber_cons rfl _

variable {close : Char} (hcomma : close ≠ ',') (hclose : isNumberChar close = false)

include hcomma hclose

theorem eq_of_following {as bs : List α} {s t : List Char} (has : ∀ a ∈ as, Told f a)
    (h : following f as ++ close :: s = following f bs ++ close :: t) : as = bs ∧ s = t := by
  induction as generalizing bs with
  | nil =>
    cases bs with
    | nil => exact ⟨rfl, (List.cons.inj h).2⟩
    | cons b bs => exact absurd (List.cons.inj h).1 hcomma
  | cons a as ih =>
    cases bs with
    | nil => exact absurd (List.cons.inj h).1.symm hcomma
    | cons b bs =>
      have hnext : f a ++ (following f as ++ close :: s) = f b ++ (following f bs ++ close :: t) := by
        simpa [following] using h
      obtain ⟨rfl, hrest⟩ := has a (List.mem_cons_self ..) b _ _
        (endsNumber_following hclose f as s) (endsNumber_following hclose f bs t) hnext
      obtain ⟨rfl, rfl⟩ := ih (fun a ha => has a (List.mem_cons_of_mem _ ha)) hrest
      exact ⟨rfl, rfl⟩

/-- Things in brackets are told if each of them is, and none begins with the bracket that closes. -/
theorem eq_of_joined {as bs : List α} {s t : List Char} (has : ∀ a ∈ as, Told f a)
    (hfirst : ∀ a s, (f a ++ s).head? ≠ some close)
    (h : joined f as ++ close :: s = joined f bs ++ close :: t) : as = bs ∧ s = t := by
  cases as with
  | nil =>
    cases bs with
    | nil => exact ⟨rfl, (List.cons.inj h).2⟩
    | cons b bs =>
      rw [joined_cons, List.append_assoc] at h
      exact absurd (congrArg List.head? h).symm (hfirst b _)
  | cons a as =>
    rw [joined_cons, List.append_assoc] at h
    cases bs with
    | nil => exact absurd (congrArg List.head? h) (hfirst a _)
    | cons b bs =>
      rw [joined_cons, List.append_assoc] at h
      obtain ⟨rfl, hrest⟩ := has a (List.mem_cons_self ..) b _ _
        (endsNumber_following hclose f as s) (endsNumber_following hclose f bs t) h
      obtain ⟨rfl, rfl⟩ := eq_of_following hcomma hclose
        (fun a ha => has a (List.mem_cons_of_mem _ ha)) hrest
      exact ⟨rfl, rfl⟩

end Telling

/-! ## Strings -/

/-- The characters that are not written as they are. -/
def escapes : List Char := '"' :: '\\' :: (List.range 32).map Char.ofNat

theorem mem_escapes_of_lt {c : Char} (h : c.toNat < 32) : c ∈ escapes := by
  refine List.mem_cons_of_mem _ (List.mem_cons_of_mem _ (List.mem_map.2 ⟨c.toNat, ?_, ?_⟩))
  · exact List.mem_range.2 h
  · exact c.ofNat_toNat

theorem escapedChar_of_not_mem {c : Char} (h : c ∉ escapes) : escapedChar c = [c] := by
  unfold escapedChar
  split
  case h_8 => exact if_neg fun hlt => h (mem_escapes_of_lt hlt)
  all_goals exact absurd (by decide +kernel) h

theorem exists_escapedChar_eq_cons {c : Char} (h : c ∈ escapes) :
    ∃ code, escapedChar c = '\\' :: code := by
  have hall : (escapes.all fun c => (escapedChar c).head? == some '\\') = true := by decide +kernel
  exact List.head?_eq_some_iff.1 (beq_iff_eq.1 (List.all_eq_true.1 hall c h))

/-- No escape is the beginning of another one, and none begins as a character that is written as it
is. -/
theorem eq_of_prefix_escapedChar {c d : Char} (h : escapedChar c <+: escapedChar d) : c = d := by
  have hbackslash : '\\' ∈ escapes := by decide +kernel
  by_cases hc : c ∈ escapes
  · obtain ⟨code, hcode⟩ := exists_escapedChar_eq_cons hc
    by_cases hd : d ∈ escapes
    · have hall : (escapes.all fun c => escapes.all fun d =>
          !(escapedChar c).isPrefixOf (escapedChar d) || c == d) = true := by decide +kernel
      have hpair := List.all_eq_true.1 (List.all_eq_true.1 hall c hc) d hd
      simpa [List.isPrefixOf_iff_prefix.2 h] using hpair
    · rw [hcode, escapedChar_of_not_mem hd, List.cons_prefix_cons] at h
      exact absurd (h.1 ▸ hbackslash) hd
  · rw [escapedChar_of_not_mem hc] at h
    by_cases hd : d ∈ escapes
    · obtain ⟨code, hcode⟩ := exists_escapedChar_eq_cons hd
      rw [hcode, List.cons_prefix_cons] at h
      exact absurd (h.1 ▸ hbackslash) hc
    · rw [escapedChar_of_not_mem hd, List.cons_prefix_cons] at h
      exact h.1

theorem eq_of_escapedChar {c d : Char} {s t : List Char}
    (h : escapedChar c ++ s = escapedChar d ++ t) : c = d ∧ s = t := by
  have heq : c = d := by
    rcases List.append_eq_append_iff.1 h with ⟨rest, hd, -⟩ | ⟨rest, hc, -⟩
    · exact eq_of_prefix_escapedChar ⟨rest, hd.symm⟩
    · exact (eq_of_prefix_escapedChar ⟨rest, hc.symm⟩).symm
  subst heq
  exact ⟨rfl, List.append_cancel_left h⟩

/-- What is in a string does not begin with the quote that ends it. -/
theorem head?_escapedChar_ne (c : Char) (s : List Char) : (escapedChar c ++ s).head? ≠ some '"' := by
  by_cases hc : c ∈ escapes
  · obtain ⟨code, hcode⟩ := exists_escapedChar_eq_cons hc
    rw [hcode]
    exact fun h => absurd (Option.some.inj h) (by decide)
  · rw [escapedChar_of_not_mem hc]
    rintro h
    obtain rfl := Option.some.inj h
    exact hc (List.mem_cons_self ..)

theorem eq_of_escaped {cs ds s t : List Char}
    (h : cs.flatMap escapedChar ++ '"' :: s = ds.flatMap escapedChar ++ '"' :: t) :
    cs = ds ∧ s = t := by
  induction cs generalizing ds with
  | nil =>
    cases ds with
    | nil => exact ⟨rfl, (List.cons.inj h).2⟩
    | cons d ds =>
      rw [List.flatMap_cons, List.append_assoc] at h
      exact absurd (congrArg List.head? h).symm (head?_escapedChar_ne d _)
  | cons c cs ih =>
    rw [List.flatMap_cons, List.append_assoc] at h
    cases ds with
    | nil => exact absurd (congrArg List.head? h) (head?_escapedChar_ne c _)
    | cons d ds =>
      rw [List.flatMap_cons, List.append_assoc] at h
      obtain ⟨rfl, hrest⟩ := eq_of_escapedChar h
      obtain ⟨rfl, rfl⟩ := ih hrest
      exact ⟨rfl, rfl⟩

theorem toList_stringText (k : String) :
    (stringText k).toList = '"' :: (k.toList.flatMap escapedChar ++ ['"']) := by
  rw [stringText, String.toList_ofList, List.append_assoc]
  rfl

/-- A string in quotes is told, whatever follows. -/
theorem eq_of_stringText {k l : String} {s t : List Char}
    (h : (stringText k).toList ++ s = (stringText l).toList ++ t) : k = l ∧ s = t := by
  rw [toList_stringText, toList_stringText, List.cons_append, List.cons_append, List.append_assoc,
    List.append_assoc] at h
  obtain ⟨hchars, hrest⟩ := eq_of_escaped (List.cons.inj h).2
  exact ⟨String.toList_injective hchars, hrest⟩

/-! ## Numbers -/

namespace Number

/-- A floating-point number is written as a sign and a body. -/
theorem exists_toList_text_float {x : Float} (finite : x.isFinite = true) :
    ∃ cs q, IsBody cs q ∧
      ((Number.float x finite).text.toList = '-' :: cs ∨ (Number.float x finite).text.toList = cs) := by
  obtain ⟨b, cs, q, -, hcs, -, htext⟩ := exists_documentText? finite
  refine ⟨cs, q, hcs, ?_⟩
  rw [Number.text, htext, Option.getD_some, String.toList_ofList]
  split
  · exact Or.inl rfl
  · exact Or.inr rfl

/-- The digits of an integer may have a minus sign in front. -/
theorem mem_intText {n : Int} {c : Char} (h : c ∈ (intText n).toList) :
    c = '-' ∨ c.isDigit = true := by
  rw [toList_intText] at h
  split at h
  · exact (List.mem_cons.1 h).imp_right isDigit_of_mem_toDigits
  · exact Or.inr (isDigit_of_mem_toDigits h)

theorem isNumberChar_of_mem_text {n : Number} {c : Char} (h : c ∈ n.text.toList) :
    isNumberChar c = true := by
  cases n with
  | integer n fits =>
    rcases mem_intText h with rfl | h
    · rfl
    · exact isNumberChar_of_isDigit h
  | float x finite =>
    obtain ⟨cs, q, hcs, htext | htext⟩ := exists_toList_text_float finite
    · rw [htext] at h
      rcases List.mem_cons.1 h with rfl | h
      · rfl
      · exact hcs.isNumberChar_of_mem h
    · rw [htext] at h
      exact hcs.isNumberChar_of_mem h

/-- A number begins with a digit or a minus sign. -/
theorem exists_toList_text_cons (n : Number) :
    ∃ c rest, n.text.toList = c :: rest ∧ (c = '-' ∨ c.isDigit = true) := by
  cases n with
  | integer n fits =>
    change ∃ c rest, (intText n).toList = c :: rest ∧ _
    cases hcs : (intText n).toList with
    | nil =>
      rw [toList_intText] at hcs
      split at hcs
      · cases hcs
      · exact absurd hcs Nat.toDigits_ne_nil
    | cons c rest => exact ⟨c, rest, rfl, mem_intText (hcs ▸ List.mem_cons_self ..)⟩
  | float x finite =>
    obtain ⟨cs, q, hcs, htext | htext⟩ := exists_toList_text_float finite
    · exact ⟨'-', cs, htext, Or.inl rfl⟩
    · obtain ⟨c, rest, rfl, hc⟩ := hcs.exists_cons
      exact ⟨c, rest, htext, Or.inr hc⟩

/-- A point or an exponent tells floating-point numbers from integers. -/
theorem text_float_ne_intText {x : Float} (finite : x.isFinite = true) (n : Int) :
    (Number.float x finite).text ≠ intText n := by
  intro h
  have hno : ∀ c ∈ (Number.float x finite).text.toList, c ≠ '.' ∧ c ≠ 'e' := by
    intro c hc
    rw [h] at hc
    rcases mem_intText hc with rfl | hc
    · decide
    · constructor <;> rintro rfl <;> exact absurd hc (by decide)
  obtain ⟨cs, q, hcs, htext⟩ := exists_toList_text_float finite
  obtain ⟨c, hc, hmark⟩ := hcs.exists_not_digit
  have hmem : c ∈ (Number.float x finite).text.toList := by
    rcases htext with htext | htext
    · exact htext ▸ List.mem_cons_of_mem _ hc
    · exact htext ▸ hc
  exact hmark.elim (hno c hmem).1 (hno c hmem).2

theorem text_injective {m n : Number} (h : m.text = n.text) : m = n := by
  cases m with
  | integer a fits =>
    cases n with
    | integer b fits' =>
      obtain rfl := intText_injective h
      rfl
    | float y finite => exact absurd h.symm (text_float_ne_intText finite a)
  | float x finite =>
    cases n with
    | integer b fits => exact absurd h (text_float_ne_intText finite b)
    | float y finite' =>
      obtain ⟨a, cs, p, -, -, -, hx⟩ := exists_documentText? finite
      obtain ⟨b, ds, q, -, -, -, hy⟩ := exists_documentText? finite'
      have htext : documentText? x = documentText? y := by
        rw [Number.text, Number.text, hx, hy] at h
        rw [hx, hy]
        exact congrArg some h
      obtain rfl := documentText?_injective finite finite' htext
      rfl

/-- A number ends where its characters end. -/
theorem eq_of_text {m n : Number} {s t : List Char} (hs : EndsNumber s) (ht : EndsNumber t)
    (h : m.text.toList ++ s = n.text.toList ++ t) : m = n ∧ s = t := by
  have htaken := congrArg (List.takeWhile isNumberChar) h
  rw [takeWhile_append_of_head? (fun _ => isNumberChar_of_mem_text) hs,
    takeWhile_append_of_head? (fun _ => isNumberChar_of_mem_text) ht] at htaken
  obtain rfl := text_injective (String.toList_injective htaken)
  exact ⟨rfl, List.append_cancel_left h⟩

end Number

/-! ## Documents -/

/-- The kinds of documents. -/
inductive Kind where
  | null
  | bool
  | number
  | string
  | array
  | object
deriving DecidableEq

/-- The kind of a document. -/
def kind : Json → Kind
  | .null => .null
  | .bool _ => .bool
  | .number _ => .number
  | .string _ => .string
  | .array _ => .array
  | .object _ => .object

/-- The kind that the first character of a text tells. -/
def Kind.ofChar? (c : Char) : Option Kind :=
  if c = 'n' then some .null
  else if c = 't' ∨ c = 'f' then some .bool
  else if c = '"' then some .string
  else if c = '[' then some .array
  else if c = '\x7b' then some .object
  else if c = '-' ∨ c.isDigit = true then some .number
  else none

theorem Kind.ofChar?_of_isDigit {c : Char} (h : c.isDigit = true) :
    Kind.ofChar? c = some .number := by
  have hne {d : Char} (hd : d.isDigit = false) : c ≠ d := by
    rintro rfl
    rw [h] at hd
    cases hd
  simp only [Kind.ofChar?, hne (d := 'n') rfl, hne (d := 't') rfl, hne (d := 'f') rfl,
    hne (d := '"') rfl, hne (d := '[') rfl, hne (d := '\x7b') rfl, h, or_self, or_true, if_false,
    if_true]

/-- A field as it is written. -/
def fieldText (field : String × Json) : List Char :=
  (stringText field.1).toList ++ ':' :: field.2.text.toList

theorem toList_text_array (items : List Json) :
    (Json.array items).text.toList = '[' :: (joined (fun j => j.text.toList) items ++ [']']) := by
  have hitems : textOfItems items = items.map text := by
    induction items with
    | nil => rfl
    | cons j rest ih => rw [textOfItems, ih, List.map_cons]
  rw [text, hitems]
  simp [joined, String.toList_intercalate, Function.comp_def]

theorem toList_text_object (fields : List (String × Json)) :
    (Json.object fields).text.toList = '\x7b' :: (joined fieldText fields ++ ['\x7d']) := by
  have hfields : (textOfFields fields).map String.toList = fields.map fieldText := by
    induction fields with
    | nil => rfl
    | cons field rest ih =>
      obtain ⟨k, j⟩ := field
      rw [textOfFields, List.map_cons, ih, List.map_cons]
      simp [fieldText]
  rw [text, joined, ← hfields]
  simp [String.toList_intercalate]

/-- A document begins with what tells its kind. -/
theorem exists_toList_text_cons (j : Json) :
    ∃ c rest, j.text.toList = c :: rest ∧ Kind.ofChar? c = some j.kind := by
  cases j with
  | null => exact ⟨'n', _, rfl, rfl⟩
  | bool b => cases b <;> exact ⟨_, _, rfl, rfl⟩
  | number n =>
    obtain ⟨c, rest, htext, rfl | hc⟩ := n.exists_toList_text_cons
    · exact ⟨'-', rest, htext, rfl⟩
    · exact ⟨c, rest, htext, Kind.ofChar?_of_isDigit hc⟩
  | string s => exact ⟨'"', _, toList_stringText s, rfl⟩
  | array items => exact ⟨'[', _, toList_text_array items, rfl⟩
  | object fields => exact ⟨'\x7b', _, toList_text_object fields, rfl⟩

theorem kind_eq_of_text {j k : Json} {s t : List Char}
    (h : j.text.toList ++ s = k.text.toList ++ t) : j.kind = k.kind := by
  obtain ⟨c, rest, hj, hc⟩ := j.exists_toList_text_cons
  obtain ⟨d, rest', hk, hd⟩ := k.exists_toList_text_cons
  rw [hj, hk] at h
  rw [← Option.some_inj, ← hc, ← hd, (List.cons.inj h).1]

theorem head?_text_ne (j : Json) (s : List Char) : (j.text.toList ++ s).head? ≠ some ']' := by
  obtain ⟨c, rest, hj, hc⟩ := j.exists_toList_text_cons
  rw [hj]
  intro h
  obtain rfl := Option.some.inj h
  cases hc

theorem head?_fieldText_ne (field : String × Json) (s : List Char) :
    (fieldText field ++ s).head? ≠ some '\x7d' := by
  rw [fieldText, toList_stringText]
  exact fun h => absurd (Option.some.inj h) (by decide)

/-- A field is told if its content is. -/
theorem told_fieldText {field : String × Json}
    (h : Told (fun j : Json => j.text.toList) field.2) : Told fieldText field := by
  intro field' s t hs ht htext
  rw [fieldText, fieldText, List.append_assoc, List.append_assoc] at htext
  obtain ⟨hkey, hcontent⟩ := eq_of_stringText htext
  obtain ⟨hdocument, hrest⟩ := h field'.2 s t hs ht (List.cons.inj hcontent).2
  exact ⟨Prod.ext hkey hdocument, hrest⟩

/-- The text of a document tells it, in front of what ends a number. -/
theorem told_text (j : Json) : Told (fun j => j.text.toList) j := by
  induction j using Json.induct with
  | null =>
    intro k s t _ _ h
    have hkind := kind_eq_of_text h
    cases k with
    | null => exact ⟨rfl, List.append_cancel_left h⟩
    | _ => cases hkind
  | bool a =>
    intro k s t _ _ h
    have hkind := kind_eq_of_text h
    cases k with
    | bool b =>
      have hfirst : some (if a then 't' else 'f') = some (if b then 't' else 'f') := by
        have hhead := congrArg List.head? h
        cases a <;> cases b <;> exact hhead
      have htold : ∀ a b : Bool,
          some (if a then 't' else 'f') = some (if b then 't' else 'f') → a = b := by decide
      obtain rfl := htold a b hfirst
      exact ⟨rfl, List.append_cancel_left h⟩
    | _ => cases hkind
  | number m =>
    intro k s t hs ht h
    have hkind := kind_eq_of_text h
    cases k with
    | number n =>
      obtain ⟨rfl, hrest⟩ := Number.eq_of_text hs ht h
      exact ⟨rfl, hrest⟩
    | _ => cases hkind
  | string a =>
    intro k s t _ _ h
    have hkind := kind_eq_of_text h
    cases k with
    | string b =>
      obtain ⟨rfl, hrest⟩ := eq_of_stringText h
      exact ⟨rfl, hrest⟩
    | _ => cases hkind
  | array as ih =>
    intro k s t _ _ h
    have hkind := kind_eq_of_text h
    cases k with
    | array bs =>
      dsimp only at h
      rw [toList_text_array, toList_text_array, List.cons_append, List.cons_append,
        List.append_assoc, List.append_assoc] at h
      obtain ⟨rfl, hrest⟩ := eq_of_joined (by decide) rfl ih head?_text_ne (List.cons.inj h).2
      exact ⟨rfl, hrest⟩
    | _ => cases hkind
  | object as ih =>
    intro k s t _ _ h
    have hkind := kind_eq_of_text h
    cases k with
    | object bs =>
      dsimp only at h
      rw [toList_text_object, toList_text_object, List.cons_append, List.cons_append,
        List.append_assoc, List.append_assoc] at h
      obtain ⟨rfl, hrest⟩ := eq_of_joined (by decide) rfl (fun field hfield =>
        told_fieldText (ih field hfield)) head?_fieldText_ne (List.cons.inj h).2
      exact ⟨rfl, hrest⟩
    | _ => cases hkind

/-- Documents with one text are one document. -/
theorem text_injective {j k : Json} (h : j.text = k.text) : j = k := by
  have htext : j.text.toList ++ [] = k.text.toList ++ [] := by rw [h]
  exact (told_text j k [] [] endsNumber_nil endsNumber_nil htext).1

end TypedQuery.Json
