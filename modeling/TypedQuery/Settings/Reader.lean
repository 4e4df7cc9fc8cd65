import TypedQuery.Json.Reader
import TypedQuery.Settings.Basic

/-!
# Reading settings

Settings are a document: an object with an entry for each of them, or an array of both in order; those
that do not come are standard. The document is read from front to back, and the first thing amiss
decides how it fails: the text breaks the grammar, it ends too early, or its content is not one of
settings. Entries that are no settings are skipped.
-/

namespace TypedQuery

open Json

/-- How a text fails to be settings. -/
inductive SettingsFault where
  | text (fault : ReadFault)
  /-- The document has no place in settings. -/
  | content
deriving DecidableEq

namespace Settings

/-- The ways to match names, by their names in documents. -/
def lookupNames : List (String × MemberLookup) :=
  [("exact", .exact), ("ignore_ascii_case", .ignoreCase)]

/-- The policies for clauses, by their names in documents. -/
def policyNames : List (String × ClausePolicy) := [("drop", .drop), ("reject", .reject)]

/-- The settings that a document has given. -/
structure Given where
  lookup : Option MemberLookup
  policy : Option ClausePolicy

/-- The settings, where those that were not given are standard. -/
def Given.settings (g : Given) : Settings :=
  ⟨g.lookup.getD standard.lookup, g.policy.getD standard.policy⟩

/-- Something read from `cs`, with a shorter text after it. -/
abbrev Step (α : Type) (cs : List Char) :=
  Except SettingsFault (α × { rest : List Char // rest.length < cs.length })

/-- The outcome of reading a document, or a part of one, as one of reading settings. -/
def ofRead {α : Type} (x : Except ReadFault α) : Except SettingsFault α := x.mapError .text

/-- How a document fails where one of another kind is asked for. The text of a scalar may itself be
at fault; of an array or an object only the beginning is looked at. -/
def refuse (cs : List Char) : SettingsFault :=
  match skipSpace cs with
  | '[' :: _ | '\x7b' :: _ => .content
  | cs =>
    match readValue .content 1 cs with
    | .ok _ => .content
    | .error fault => .text fault

/-- The value of a name. -/
def choose {α : Type} (known : List (String × α)) (name : List Char) : Except SettingsFault α :=
  match known.lookup (String.ofList name) with
  | some a => .ok a
  | none => .error .content

/-- Reads past the character `c` and white space in front of it. -/
def readMark (c : Char) (cs : List Char) : Except SettingsFault { rest : List Char // rest.length < cs.length } :=
  match h : skipSpace cs with
  | [] => .error (.text .truncated)
  | c' :: rest =>
    if c' == c then .ok ⟨rest, length_lt_of_skipSpace h⟩
    else .error (.text .malformed)

/-- Reads null. -/
def readNull (cs : List Char) : Except SettingsFault { rest : List Char // rest.length < cs.length } :=
  match h : skipSpace cs with
  | 'n' :: rest => do
    let ⟨rest, hrest⟩ ← ofRead (readName ['u', 'l', 'l'] rest)
    .ok ⟨rest, Nat.lt_of_le_of_lt hrest (length_lt_of_skipSpace h)⟩
  | _ => .error (refuse cs)

/-- Reads a name and null, as the one entry of an object, after its brace. -/
def readNamedNull {α : Type} (known : List (String × α)) (cs : List Char) : Step α cs :=
  have := length_skipSpace_le cs
  match h : skipSpace cs with
  | '"' :: rest => do
    let (name, ⟨rest, _⟩) ← ofRead (readString .content rest)
    let a ← choose known name
    let ⟨rest, _⟩ ← readMark ':' rest
    let ⟨rest, _⟩ ← readNull rest
    let ⟨rest, _⟩ ← readMark '\x7d' rest
    .ok (a, ⟨rest, by simp only [h, List.length_cons] at this; omega⟩)
  | _ => .error (refuse cs)

/-- Reads one of the names, alone or as the key of null. -/
def readChoice {α : Type} (known : List (String × α)) (cs : List Char) : Step α cs :=
  match h : skipSpace cs with
  | [] => .error (.text .truncated)
  | '"' :: rest => do
    let (name, ⟨rest, hrest⟩) ← ofRead (readString .content rest)
    let a ← choose known name
    .ok (a, ⟨rest, length_lt_trans (length_lt_of_skipSpace h) hrest⟩)
  | '\x7b' :: rest => do
    let (a, ⟨rest, hrest⟩) ← readNamedNull known rest
    .ok (a, ⟨rest, length_lt_trans (length_lt_of_skipSpace h) hrest⟩)
  | _ => .error (.text .malformed)

/-! ## Objects -/

/-- Reads the content of an entry, after its key. A setting may be given only once. -/
def readEntry (g : Given) (key : String) (cs : List Char) : Step Given cs :=
  if key = "member_lookup" then
    if g.lookup.isSome then .error .content
    else do
      let ⟨rest, h⟩ ← readMark ':' cs
      let (lookup, ⟨rest, h'⟩) ← readChoice lookupNames rest
      .ok ({ g with lookup := some lookup }, ⟨rest, length_lt_trans h h'⟩)
  else if key = "ambiguous_clauses" then
    if g.policy.isSome then .error .content
    else do
      let ⟨rest, h⟩ ← readMark ':' cs
      let (policy, ⟨rest, h'⟩) ← readChoice policyNames rest
      .ok ({ g with policy := some policy }, ⟨rest, length_lt_trans h h'⟩)
  else do
    let ⟨rest, h⟩ ← readMark ':' cs
    let (_, ⟨rest, h'⟩) ← ofRead (readValue .shape 0 rest)
    .ok (g, ⟨rest, length_lt_trans h h'⟩)

/-- Reads an entry with its key. -/
def readKeyed (g : Given) (cs : List Char) : Step Given cs :=
  have := length_skipSpace_le cs
  match h : skipSpace cs with
  | [] => .error (.text .truncated)
  | '"' :: rest => do
    let (key, ⟨rest, _⟩) ← ofRead (readString .content rest)
    let (g, ⟨rest, _⟩) ← readEntry g (String.ofList key) rest
    .ok (g, ⟨rest, by simp only [h, List.length_cons] at this; omega⟩)
  | _ => .error (.text .malformed)

/-- Reads the entries of an object up to and with its closing brace. -/
def readEntries (g : Given) (first : Bool) (cs : List Char) : Except SettingsFault (Given × List Char) :=
  have := length_skipSpace_le cs
  match h : skipSpace cs with
  | [] => .error (.text .truncated)
  | '\x7d' :: rest => .ok (g, rest)
  | c :: rest =>
    if first then do
      let (g, ⟨rest, _⟩) ← readKeyed g cs
      readEntries g false rest
    else if c == ',' then do
      have : rest.length < cs.length := by
        simp only [h, List.length_cons] at this
        omega
      let (g, ⟨rest, _⟩) ← readKeyed g rest
      readEntries g false rest
    else .error (.text .malformed)
termination_by cs.length

/-! ## Arrays -/

/-- The text at the next item of an array, or nothing if the array ends. -/
def nextItem? (first : Bool) (cs : List Char) : Except SettingsFault (Option (List Char)) :=
  match skipSpace cs with
  | [] => .error (.text .truncated)
  | ']' :: _ => .ok none
  | c :: rest =>
    if first then .ok (some cs)
    else if c == ',' then
      match skipSpace rest with
      | [] => .error (.text .truncated)
      | ']' :: _ => .error (.text .malformed)
      | _ => .ok (some rest)
    else .error (.text .malformed)

/-- Reads the items of an array, without its closing bracket. -/
def readItems (cs : List Char) : Except SettingsFault (Given × List Char) := do
  match ← nextItem? true cs with
  | none => return (⟨none, none⟩, cs)
  | some rest =>
    let (lookup, ⟨rest, _⟩) ← readChoice lookupNames rest
    match ← nextItem? false rest with
    | none => return (⟨some lookup, none⟩, rest)
    | some rest =>
      let (policy, ⟨rest, _⟩) ← readChoice policyNames rest
      return (⟨some lookup, some policy⟩, rest)

/-! ## Whole texts -/

/-- Reads settings up to their end. -/
def readDocument (cs : List Char) : Except SettingsFault (Given × List Char) :=
  match skipSpace cs with
  | '\x7b' :: rest => readEntries ⟨none, none⟩ true rest
  | '[' :: rest => do
    let (g, rest) ← readItems rest
    let ⟨rest, _⟩ ← readMark ']' rest
    return (g, rest)
  | cs => .error (refuse cs)

/-- Reads a text that is settings. -/
def read (s : String) : Except SettingsFault Settings := do
  let (g, rest) ← readDocument s.toList
  ofRead (readEnd rest)
  return g.settings

end Settings

end TypedQuery
