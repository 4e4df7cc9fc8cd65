import TypedQuery.Text.Class

/-!
# Other spellings of a text

Three ways to set letter case aside: comparing without regard to the case of ASCII letters,
upper-casing where the upper case is ASCII, and full lower-casing of a text. Beside them stands the
text between double quotes in which everything that does not show is spelt out: a backslash form for
the common controls, the backslash and the quote, and the code point in braces for the rest.
-/

namespace TypedQuery.Text

/-! ## ASCII -/

/-- Equality of texts up to the case of the letters `A` to `Z`. -/
def eqIgnoringCase (a b : String) : Bool :=
  a.toList.map Char.toLower == b.toList.map Char.toLower

@[simp] theorem eqIgnoringCase_refl (a : String) : eqIgnoringCase a a = true := by
  simp [eqIgnoringCase]

theorem eqIgnoringCase_iff {a b : String} :
    eqIgnoringCase a b = true ↔ a.toList.map Char.toLower = b.toList.map Char.toLower := by
  simp [eqIgnoringCase]

/-! ## Upper case -/

/-- The upper case of a character where that is ASCII text: of the ASCII letters, and of the letters
and ligatures that spell out as ASCII. Any other character stands for itself. -/
def asciiUpper (c : Char) : List Char :=
  match c with
  | 'ß' => ['S', 'S']
  | 'ı' => ['I']
  | 'ſ' => ['S']
  | 'ﬀ' => ['F', 'F']
  | 'ﬁ' => ['F', 'I']
  | 'ﬂ' => ['F', 'L']
  | 'ﬃ' => ['F', 'F', 'I']
  | 'ﬄ' => ['F', 'F', 'L']
  | 'ﬅ' => ['S', 'T']
  | 'ﬆ' => ['S', 'T']
  | c => [c.toUpper]

/-- The text in upper case, as far as that is ASCII. -/
def upperKey (cs : List Char) : List Char := cs.flatMap asciiUpper

/-! ## Lower case -/

/-- The lower case of a character taken alone; only `İ` has one of two characters. -/
def lowerChar (c : Char) : List Char :=
  if c.toNat < 0x80 then [c.toLower]
  else if c == 'İ' then ['i', Char.ofNat 0x307]
  else
    match lowerCaseRanges.find? (fun (first, last, step, _) =>
        first ≤ c.toNat && c.toNat ≤ last && (c.toNat - first) % step == 0) with
    | some (_, _, _, shift) => [Char.ofNat (c.toNat + shift).toNat]
    | none => [c]

/-- Whether the nearest character that case mapping does not look past has a case. -/
def meetsCased (cs : List Char) : Bool :=
  match cs.dropWhile (inRanges caseIgnorableRanges) with
  | c :: _ => inRanges casedRanges c
  | [] => false

/-- Lower-cases `cs`, where `before` is the text in front of it, nearest character first. A capital
sigma that ends a word takes its final form. -/
def lowerAfter (before : List Char) : List Char → List Char
  | [] => []
  | c :: cs =>
    (if c == 'Σ' then (if meetsCased before && !meetsCased cs then ['ς'] else ['σ'])
      else lowerChar c) ++ lowerAfter (c :: before) cs

/-- The text in lower case. -/
def lower (s : String) : String := String.ofList (lowerAfter [] s.toList)

/-! ## Quoted text -/

/-- The digits of a number in base sixteen. -/
def hexDigits (n : Nat) : List Char := Nat.toDigits 16 n

/-- A character as quoted text shows it. -/
def quotedChar (c : Char) : List Char :=
  match c with
  | '\x00' => ['\\', '0']
  | '\t' => ['\\', 't']
  | '\r' => ['\\', 'r']
  | '\n' => ['\\', 'n']
  | '\\' => ['\\', '\\']
  | '"' => ['\\', '"']
  | c =>
    if inRanges invisibleRanges c then ['\\', 'u', '\x7b'] ++ hexDigits c.toNat ++ ['\x7d'] else [c]

/-- The text in double quotes with everything invisible spelt out. -/
def quoted (s : String) : String :=
  String.ofList (['"'] ++ s.toList.flatMap quotedChar ++ ['"'])

/-- Quoted texts in brackets, with a comma and a space between them. -/
def quotedList (items : List String) : String :=
  "[" ++ ", ".intercalate (items.map quoted) ++ "]"

end TypedQuery.Text
