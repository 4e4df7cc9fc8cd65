import TypedQuery.Json.Basic

/-!
# Reading documents

A document is read from a list of characters. Every reading function returns what it read with the
text after it and the fact that this text is shorter, which is what ends the recursion. A text fails
in one of two ways: it breaks the grammar, or it ends before the document does.

A document that is only skipped is held to the shape alone: escapes need not pair up to a character,
numbers may be too large, and arrays and objects may be nested to any depth.
-/

namespace TypedQuery.Json

/-- How a text fails to be a document. -/
inductive ReadFault where
  /-- The text breaks the grammar. -/
  | malformed
  /-- The text ends inside the document. -/
  | truncated
deriving DecidableEq, Repr

/-- How closely a document is looked at. -/
inductive Scrutiny where
  /-- It is read for its content. -/
  | content
  /-- It is skipped, and only its shape counts. -/
  | shape
deriving DecidableEq

/-- Something read from `cs`, with a shorter text after it. -/
abbrev Read (α : Type) (cs : List Char) := Except ReadFault (α × { rest : List Char // rest.length < cs.length })

/-! ## White space -/

/-- White space between the parts of a document. -/
def isSpace (c : Char) : Bool := c == ' ' || c == '\n' || c == '\t' || c == '\r'

/-- The text from its first character that is not white space. -/
def skipSpace (cs : List Char) : List Char := cs.dropWhile isSpace

theorem length_skipSpace_le (cs : List Char) : (skipSpace cs).length ≤ cs.length :=
  (List.dropWhile_sublist _).length_le

theorem length_lt_of_skipSpace {cs rest : List Char} {c : Char} (h : skipSpace cs = c :: rest) :
    rest.length < cs.length := by
  have hle := length_skipSpace_le cs
  rw [h, List.length_cons] at hle
  omega

theorem length_lt_trans {cs rest rest' : List Char} (h : rest.length < cs.length)
    (h' : rest'.length < rest.length) : rest'.length < cs.length :=
  Nat.lt_trans h' h

theorem length_le_cons_of_lt (c : Char) {cs rest : List Char} (h : rest.length < cs.length) :
    rest.length ≤ (c :: cs).length :=
  Nat.le_succ_of_le (Nat.le_of_lt h)

/-! ## Words -/

/-- Reads the rest `word` of a name such as `null`. -/
def readName (word cs : List Char) : Except ReadFault { rest : List Char // rest.length ≤ cs.length } :=
  match word, cs with
  | [], cs => .ok ⟨cs, Nat.le_refl _⟩
  | _ :: _, [] => .error .truncated
  | w :: word, c :: cs =>
    if w == c then do
      let ⟨rest, h⟩ ← readName word cs
      .ok ⟨rest, by simp only [List.length_cons]; omega⟩
    else .error .malformed

/-! ## Strings -/

/-- What a hexadecimal digit stands for. -/
def hexValue? (c : Char) : Option Nat :=
  if c.isDigit then some (c.toNat - 48)
  else if 'a' ≤ c && c ≤ 'f' then some (c.toNat - 87)
  else if 'A' ≤ c && c ≤ 'F' then some (c.toNat - 55)
  else none

/-- A code of four hexadecimal digits. -/
def readCode (cs : List Char) : Except ReadFault (Nat × { rest : List Char // rest.length ≤ cs.length }) :=
  if (String.ofList cs).utf8ByteSize < 4 then .error .truncated
  else
    match h : cs with
    | a :: b :: c :: d :: rest =>
      match hexValue? a, hexValue? b, hexValue? c, hexValue? d with
      | some a, some b, some c, some d =>
        .ok (((a * 16 + b) * 16 + c) * 16 + d, ⟨rest, by simp only [List.length_cons]; omega⟩)
      | _, _, _, _ => .error .malformed
    | _ => .error .malformed

/-- The character of an escape that begins with `u`. Two codes for the halves of a pair give one
character; half a pair alone is an error where content counts. -/
def readUnicode (scrutiny : Scrutiny) (cs : List Char) :
    Except ReadFault (Char × { rest : List Char // rest.length ≤ cs.length }) := do
  let (code, ⟨rest, h⟩) ← readCode cs
  if scrutiny = .shape then return (Char.ofNat code, ⟨rest, h⟩)
  if 0xdc00 ≤ code && code ≤ 0xdfff then .error .malformed
  else if 0xd800 ≤ code && code ≤ 0xdbff then
    match rest, h with
    | [], _ => .error .truncated
    | ['\\'], _ => .error .truncated
    | '\\' :: 'u' :: rest, h => do
      let (low, ⟨rest', h'⟩) ← readCode rest
      if 0xdc00 ≤ low && low ≤ 0xdfff then
        .ok (Char.ofNat (0x10000 + (code - 0xd800) * 0x400 + (low - 0xdc00)),
          ⟨rest', by simp only [List.length_cons] at h; omega⟩)
      else .error .malformed
    | _, _ => .error .malformed
  else .ok (Char.ofNat code, ⟨rest, h⟩)

/-- The character of an escape, after its backslash. -/
def readEscape (scrutiny : Scrutiny) (cs : List Char) : Read Char cs :=
  match cs with
  | [] => .error .truncated
  | 'u' :: cs => do
    let (c, ⟨rest, h⟩) ← readUnicode scrutiny cs
    .ok (c, ⟨rest, by simp only [List.length_cons]; omega⟩)
  | e :: cs =>
    let short := match e with
      | '"' => some '"'
      | '\\' => some '\\'
      | '/' => some '/'
      | 'b' => some '\x08'
      | 'f' => some '\x0c'
      | 'n' => some '\n'
      | 'r' => some '\r'
      | 't' => some '\t'
      | _ => none
    match short with
    | some c => .ok (c, ⟨cs, by simp⟩)
    | none => .error .malformed

/-- The characters of a string, after its opening quote, up to and with the closing one. -/
def readString (scrutiny : Scrutiny) (cs : List Char) : Read (List Char) cs :=
  match cs with
  | [] => .error .truncated
  | '"' :: rest => .ok ([], ⟨rest, by simp⟩)
  | '\\' :: rest => do
    let (c, ⟨rest, _⟩) ← readEscape scrutiny rest
    let (s, ⟨rest, _⟩) ← readString scrutiny rest
    .ok (c :: s, ⟨rest, by simp only [List.length_cons]; omega⟩)
  | c :: rest =>
    if c.toNat < 0x20 then .error .malformed
    else do
      let (s, ⟨rest, _⟩) ← readString scrutiny rest
      .ok (c :: s, ⟨rest, by simp only [List.length_cons]; omega⟩)
termination_by cs.length

/-! ## Numbers -/

/-- What is wrong where a digit is missing: the text may have ended, if content counts. -/
def missingDigit (scrutiny : Scrutiny) (cs : List Char) : ReadFault :=
  if cs.isEmpty && scrutiny == .content then .truncated else .malformed

/-- The digits a text begins with, if it begins with any. -/
def digitRun? : (cs : List Char) → Option (List Char × { rest : List Char // rest.length < cs.length })
  | [] => none
  | c :: cs =>
    if c.isDigit then
      match digitRun? cs with
      | some (ds, ⟨rest, h⟩) => some (c :: ds, ⟨rest, by simp only [List.length_cons]; omega⟩)
      | none => some ([c], ⟨cs, by simp⟩)
    else none

/-- One or more digits. -/
def readDigits (scrutiny : Scrutiny) (cs : List Char) : Read (List Char) cs :=
  match digitRun? cs with
  | some run => .ok run
  | none => .error (missingDigit scrutiny cs)

/-- The digits in front of the point: a zero alone, or digits that begin with no zero. -/
def readWhole (scrutiny : Scrutiny) (cs : List Char) : Read (List Char) cs := do
  let run ← readDigits scrutiny cs
  match run.1 with
  | '0' :: _ :: _ => .error .malformed
  | _ => .ok run

/-- The digits behind the point, if there is one. -/
def readFraction (scrutiny : Scrutiny) (cs : List Char) :
    Except ReadFault (Option (List Char) × { rest : List Char // rest.length ≤ cs.length }) :=
  match cs with
  | '.' :: cs => do
    let (ds, ⟨rest, h⟩) ← readDigits scrutiny cs
    .ok (some ds, ⟨rest, length_le_cons_of_lt '.' h⟩)
  | cs => .ok (none, ⟨cs, Nat.le_refl _⟩)

/-- The exponent, if there is one. -/
def readExponent (scrutiny : Scrutiny) (cs : List Char) :
    Except ReadFault (Option Int × { rest : List Char // rest.length ≤ cs.length }) :=
  match cs with
  | [] => .ok (none, ⟨[], Nat.le_refl _⟩)
  | c :: cs =>
    if c == 'e' || c == 'E' then
      match cs with
      | '-' :: cs => do
        let (ds, ⟨rest, h⟩) ← readDigits scrutiny cs
        .ok (some (-(TypedQuery.Number.digitsValue ds : Int)),
          ⟨rest, Nat.le_succ_of_le (length_le_cons_of_lt '-' h)⟩)
      | '+' :: cs => do
        let (ds, ⟨rest, h⟩) ← readDigits scrutiny cs
        .ok (some (TypedQuery.Number.digitsValue ds),
          ⟨rest, Nat.le_succ_of_le (length_le_cons_of_lt '+' h)⟩)
      | cs => do
        let (ds, ⟨rest, h⟩) ← readDigits scrutiny cs
        .ok (some (TypedQuery.Number.digitsValue ds), ⟨rest, length_le_cons_of_lt c h⟩)
    else .ok (none, ⟨c :: cs, Nat.le_refl _⟩)

/-- The number that its parts stand for. An integer outside the 64-bit ranges, and minus zero, are
floating-point numbers; one that is too large is none. -/
def numberOf? (negative : Bool) (whole : List Char) (fraction : Option (List Char))
    (exponent : Option Int) : Option Number :=
  let magnitude := TypedQuery.Number.digitsValue whole
  let n : Int := if negative then -(magnitude : Int) else magnitude
  let places := fraction.getD []
  let unsigned := TypedQuery.Number.nearest (TypedQuery.Number.digitsValue (whole ++ places))
    (exponent.getD 0 - places.length)
  let x : Float := if negative then -unsigned else unsigned
  if h : fraction = none ∧ exponent = none ∧ (negative = true → magnitude ≠ 0) ∧
      -0x8000000000000000 ≤ n ∧ n < 0x10000000000000000 then
    some (.integer n h.2.2.2)
  else if h : x.isFinite = true then some (.float x h)
  else none

/-- A number after its sign. -/
def readNumber (scrutiny : Scrutiny) (negative : Bool) (cs : List Char) : Read Json cs := do
  let (whole, ⟨rest, _⟩) ← readWhole scrutiny cs
  let (fraction, ⟨rest, _⟩) ← readFraction scrutiny rest
  let (exponent, ⟨rest, _⟩) ← readExponent scrutiny rest
  match numberOf? negative whole fraction exponent with
  | some n => .ok (.number n, ⟨rest, by omega⟩)
  | none =>
    if scrutiny = .shape then .ok (.null, ⟨rest, by omega⟩) else .error .malformed

/-! ## Values -/

mutual

/-- Reads a document that may nest arrays and objects less than `depth` deep. -/
def readValue (scrutiny : Scrutiny) (depth : Nat) (cs : List Char) : Read Json cs :=
  have := length_skipSpace_le cs
  match h : skipSpace cs with
  | [] => .error .truncated
  | 'n' :: rest => do
    let ⟨rest, _⟩ ← readName ['u', 'l', 'l'] rest
    .ok (.null, ⟨rest, by simp only [h, List.length_cons] at this; omega⟩)
  | 't' :: rest => do
    let ⟨rest, _⟩ ← readName ['r', 'u', 'e'] rest
    .ok (.bool true, ⟨rest, by simp only [h, List.length_cons] at this; omega⟩)
  | 'f' :: rest => do
    let ⟨rest, _⟩ ← readName ['a', 'l', 's', 'e'] rest
    .ok (.bool false, ⟨rest, by simp only [h, List.length_cons] at this; omega⟩)
  | '"' :: rest => do
    let (s, ⟨rest, _⟩) ← readString scrutiny rest
    .ok (.string (String.ofList s), ⟨rest, by simp only [h, List.length_cons] at this; omega⟩)
  | '[' :: rest =>
    if depth ≤ 1 && scrutiny == .content then .error .malformed
    else do
      let (items, ⟨rest, _⟩) ← readItems scrutiny (depth - 1) true rest
      .ok (.array items, ⟨rest, by simp only [h, List.length_cons] at this; omega⟩)
  | '\x7b' :: rest =>
    if depth ≤ 1 && scrutiny == .content then .error .malformed
    else do
      let (fields, ⟨rest, _⟩) ← readFields scrutiny (depth - 1) true [] rest
      .ok (.object fields, ⟨rest, by simp only [h, List.length_cons] at this; omega⟩)
  | '-' :: rest => do
    let (n, ⟨rest, _⟩) ← readNumber scrutiny true rest
    .ok (n, ⟨rest, by simp only [h, List.length_cons] at this; omega⟩)
  | c :: rest =>
    if c.isDigit then do
      let (n, ⟨rest, _⟩) ← readNumber scrutiny false (c :: rest)
      .ok (n, ⟨rest, by simp only [h, List.length_cons] at *; omega⟩)
    else .error .malformed
termination_by (cs.length, 0)
decreasing_by all_goals (simp only [h, List.length_cons] at this; omega)

/-- Reads the items of an array up to and with its closing bracket. -/
def readItems (scrutiny : Scrutiny) (depth : Nat) (first : Bool) (cs : List Char) :
    Read (List Json) cs :=
  have := length_skipSpace_le cs
  match h : skipSpace cs with
  | [] => .error .truncated
  | c :: rest =>
    if c == ']' then .ok ([], ⟨rest, by simp only [h, List.length_cons] at this; omega⟩)
    else if first then do
      let (j, ⟨rest, _⟩) ← readValue scrutiny depth cs
      let (items, ⟨rest, _⟩) ← readItems scrutiny depth false rest
      .ok (j :: items, ⟨rest, by omega⟩)
    else if c == ',' then
      have := length_skipSpace_le rest
      match h' : skipSpace rest with
      | [] => .error .truncated
      | c' :: _ =>
        if c' == ']' then .error .malformed
        else do
          let (j, ⟨rest, _⟩) ← readValue scrutiny depth rest
          let (items, ⟨rest, _⟩) ← readItems scrutiny depth false rest
          .ok (j :: items, ⟨rest, by simp only [h, List.length_cons] at *; omega⟩)
    else .error .malformed
termination_by (cs.length, 1)
decreasing_by all_goals (simp only [h, List.length_cons] at *; omega)

/-- Reads the fields of an object up to and with its closing brace, after the fields `done`. A key
that comes again replaces the content it had. -/
def readFields (scrutiny : Scrutiny) (depth : Nat) (first : Bool) (done : List (String × Json))
    (cs : List Char) : Read (List (String × Json)) cs :=
  have := length_skipSpace_le cs
  match h : skipSpace cs with
  | [] => .error .truncated
  | c :: rest =>
    if c == '\x7d' then .ok (done, ⟨rest, by simp only [h, List.length_cons] at this; omega⟩)
    else if !first && c != ',' then .error .malformed
    else
      let body := if first then cs else rest
      have hbody : body.length ≤ cs.length := by
        simp only [h, List.length_cons] at this
        simp only [body]
        split <;> omega
      have := length_skipSpace_le body
      match h' : skipSpace body with
      | [] => .error .truncated
      | '"' :: rest => do
        let (key, ⟨rest, _⟩) ← readString scrutiny rest
        have := length_skipSpace_le rest
        match h'' : skipSpace rest with
        | [] => .error .truncated
        | ':' :: rest => do
          let (j, ⟨rest, _⟩) ← readValue scrutiny depth rest
          let (fields, ⟨rest, _⟩) ←
            readFields scrutiny depth false (Dict.insert done (String.ofList key) j) rest
          .ok (fields, ⟨rest, by simp only [h', h'', List.length_cons] at *; omega⟩)
        | _ => .error .malformed
      | _ => .error .malformed
termination_by (cs.length, 1)
decreasing_by all_goals (simp only [h', h'', List.length_cons] at *; omega)

end

/-! ## Whole texts -/

/-- Nothing but white space may stand behind a document. -/
def readEnd (cs : List Char) : Except ReadFault Unit :=
  if (skipSpace cs).isEmpty then .ok () else .error .malformed

/-- Reads a text that is one document, nested less than `depth` deep. -/
def readWithin (depth : Nat) (s : String) : Except ReadFault Json := do
  let (j, ⟨rest, _⟩) ← readValue .content depth s.toList
  readEnd rest
  return j

/-- Reads a text that is one document; arrays and objects may be nested 127 deep. -/
def read (s : String) : Except ReadFault Json := readWithin 128 s

end TypedQuery.Json
