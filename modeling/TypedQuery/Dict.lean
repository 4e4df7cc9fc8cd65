/-!
# Dictionaries

Entries under text keys, kept in the order of their keys. `insert` puts an entry in its place and
replaces the one that was there; `get?` finds the first entry of a key. The two equations for `get?`
after `insert` hold for every list of entries, also one out of order.
-/

namespace TypedQuery

/-- Entries under text keys. -/
abbrev Dict (α : Type) := List (String × α)

namespace Dict

variable {α β : Type}

/-- The first entry under `key`. -/
def get? : Dict α → String → Option α
  | [], _ => none
  | (k, v) :: rest, key => if k = key then some v else get? rest key

/-- Whether `key` has an entry. -/
def contains (d : Dict α) (key : String) : Bool := (d.get? key).isSome

/-- Puts `value` under `key`, in front of the first greater key. -/
def insert : Dict α → String → α → Dict α
  | [], key, value => [(key, value)]
  | (k, v) :: rest, key, value =>
    if key < k then (key, value) :: (k, v) :: rest
    else if key = k then (key, value) :: rest
    else (k, v) :: insert rest key value

/-- The dictionary of some entries; of entries with one key the last stays. -/
def ofList (entries : List (String × α)) : Dict α :=
  entries.foldl (fun d (k, v) => d.insert k v) []

/-- The keys in order. -/
def keys (d : Dict α) : List String := d.map Prod.fst

/-- The entries' contents in the order of their keys. -/
def values (d : Dict α) : List α := d.map Prod.snd

/-! ## Looking up after an insertion -/

@[simp] theorem get?_nil (key : String) : get? ([] : Dict α) key = none := rfl

theorem get?_cons (k : String) (v : α) (rest : Dict α) (key : String) :
    get? ((k, v) :: rest) key = if k = key then some v else get? rest key := rfl

@[simp] theorem get?_insert_self (d : Dict α) (key : String) (value : α) :
    (d.insert key value).get? key = some value := by
  induction d with
  | nil => simp [insert, get?]
  | cons entry rest ih =>
    obtain ⟨k, v⟩ := entry
    simp only [insert]
    split
    · simp [get?]
    · split
      · simp [get?]
      · rename_i hne
        simp [get?, Ne.symm hne, ih]

theorem get?_insert_of_ne (d : Dict α) {key other : String} (hne : key ≠ other) (value : α) :
    (d.insert key value).get? other = d.get? other := by
  induction d with
  | nil => simp [insert, get?, hne]
  | cons entry rest ih =>
    obtain ⟨k, v⟩ := entry
    simp only [insert]
    split
    · simp [get?, hne]
    · split
      · rename_i heq
        subst heq
        simp [get?, hne]
      · simp [get?, ih]

end Dict

end TypedQuery
