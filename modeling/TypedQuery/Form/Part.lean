import TypedQuery.Json.Decode

/-!
# Parts of documents

The document form of a type is a document that holds all of a value of it: a name, or an object with
the name of a constructor as its one key; for a record an object, or an array of its fields in order.
The parts that these functions give come with the fact that they are less deep than the whole, which
is what ends the recursion of the readers.
-/

namespace TypedQuery.Json

/-- A document inside another one. -/
abbrev Part (j : Json) := { c : Json // c.depth < j.depth }

/-- The items of an array. -/
def parts? (j : Json) : Option (List (Part j)) :=
  match j with
  | .array items =>
    some (items.attach.map fun ⟨c, hc⟩ =>
      ⟨c, by have := depth_le_of_mem_items hc; simp only [depth]; omega⟩)
  | _ => none

/-- The entries of an object. -/
def entries? (j : Json) : Option (List (String × Part j)) :=
  match j with
  | .object fields =>
    some (fields.attach.map fun ⟨(k, c), hc⟩ =>
      (k, ⟨c, by have := depth_le_of_mem_fields hc; simp only [depth]; omega⟩))
  | _ => none

/-- The content of an object under a key. -/
def content? (j : Json) (key : String) : Option (Part j) :=
  match entries? j with
  | some entries => entries.lookup key
  | none => none

/-- The constructor that a document names, with its content, if it has one. -/
def constructor? (j : Json) : Option (String × Option (Part j)) :=
  match j with
  | .string name => some (name, none)
  | j =>
    match entries? j with
    | some [(name, c)] => some (name, some c)
    | _ => none

/-- The two items of an array of two. -/
def pair? (j : Json) : Option (Part j × Part j) :=
  match parts? j with
  | some [a, b] => some (a, b)
  | _ => none

/-! ## Records -/

/-- Whether the document is null. -/
def isNull : Json → Bool
  | .null => true
  | _ => false

/-- Whether the document is an object. -/
def isObject : Json → Bool
  | .object _ => true
  | _ => false

/-- Whether the document may be a record of `size` fields. -/
def isRecord (size : Nat) : Json → Bool
  | .object _ => true
  | .array items => items.length ≤ size
  | _ => false

/-- The content of a record's field, by its name or its position. -/
def slot? (j : Json) (index : Nat) (name : String) : Option (Part j) :=
  match parts? j with
  | some items => items[index]?
  | none => content? j name

/-- The content of a field that an object may leave out, where it is not null. -/
def optionalSlot? (j : Json) (index : Nat) (name : String) : Option (Option (Part j)) :=
  match slot? j index name with
  | some c => some (if c.1.isNull then none else some c)
  | none => if j.isObject then some none else none

/-! ## Scalars -/

/-- The text that a document is. -/
def string? (j : Json) : Option String := (decodeString j).toOption

/-- The texts that an array holds. -/
def strings? (j : Json) : Option (List String) :=
  match j with
  | .array items => items.mapM string?
  | _ => none

/-- What a document names. -/
def named? {α : Type} (known : List (String × α)) (j : Json) : Option α :=
  (decodeName known j).toOption

/-- The form of a constructor with content. -/
def tagged (name : String) (content : Json) : Json := .object [(name, content)]

/-- The form of something that may be missing. -/
def ofOption {α : Type} (form : α → Json) (x : Option α) : Json := (x.map form).getD .null

/-- The form of a list of texts. -/
def ofStrings (items : List String) : Json := .array (items.map Json.string)

end TypedQuery.Json
