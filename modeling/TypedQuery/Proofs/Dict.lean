import TypedQuery.Dict

/-!
# Entries of a dictionary after an insertion

`Dict.insert` takes away no entry but the first one of its key, and a search that passes over the
key does not notice it.  Neither fact needs the entries to be in order.  Where they are in order,
they stay so, and each entry is the one that is found under its key.
-/

namespace TypedQuery.Dict

variable {α : Type} {d : Dict α} {key : String} {value : α} {entry : String × α}

/-- The entry under a key is the first one of that key. -/
theorem get?_eq_find? (d : Dict α) (key : String) :
    d.get? key = (d.find? (·.1 == key)).map Prod.snd := by
  induction d with
  | nil => rfl
  | cons entry d ih =>
    rw [get?_cons, ih]
    by_cases hkey : entry.1 = key
    · have hfound : (entry.1 == key) = true := beq_iff_eq.2 hkey
      simp only [List.find?_cons, hfound, if_pos hkey, Option.map_some]
    · have hnot : (entry.1 == key) = false := beq_eq_false_iff_ne.2 hkey
      simp only [List.find?_cons, hnot, if_neg hkey]

/-- A search that no entry of the key can end goes on as before. -/
theorem find?_insert {test : String × α → Bool} (h : ∀ v, test (key, v) = false) :
    (d.insert key value).find? test = d.find? test := by
  induction d with
  | nil => rw [insert, List.find?_cons, h]
  | cons e rest ih =>
    obtain ⟨k, v⟩ := e
    rw [insert]
    split
    · rw [List.find?_cons, h]
    · split
      · rename_i heq
        subst heq
        rw [List.find?_cons, List.find?_cons, h, h]
      · rw [List.find?_cons, List.find?_cons, ih]

theorem find?_cons_cases (rest : Dict α) (key : String) (value other : α) (test : String → Bool) :
    List.find? (fun e => test e.1) ((key, value) :: rest) =
        List.find? (fun e => test e.1) ((key, other) :: rest) ∨
      List.find? (fun e => test e.1) ((key, value) :: rest) = some (key, value) ∧
        List.find? (fun e => test e.1) ((key, other) :: rest) = some (key, other) := by
  simp only [List.find?_cons]
  cases test key with
  | true => exact Or.inr ⟨rfl, rfl⟩
  | false => exact Or.inl rfl

/-- Of two insertions under one key, a search for keys ends at both or at neither. -/
theorem find?_insert_cases (d : Dict α) (key : String) (value other : α) (test : String → Bool) :
    (d.insert key value).find? (fun e => test e.1) =
        (d.insert key other).find? (fun e => test e.1) ∨
      (d.insert key value).find? (fun e => test e.1) = some (key, value) ∧
        (d.insert key other).find? (fun e => test e.1) = some (key, other) := by
  induction d with
  | nil => exact find?_cons_cases [] key value other test
  | cons e rest ih =>
    obtain ⟨k, v⟩ := e
    rw [insert, insert]
    split
    · exact find?_cons_cases _ key value other test
    · split
      · exact find?_cons_cases rest key value other test
      · rw [List.find?_cons, List.find?_cons]
        cases test k with
        | true => exact Or.inl rfl
        | false => exact ih

theorem mem_of_get?_eq_some (h : d.get? key = some value) : (key, value) ∈ d := by
  induction d with
  | nil => cases h
  | cons e rest ih =>
    obtain ⟨k, v⟩ := e
    rw [get?_cons] at h
    split at h
    · rename_i heq
      rw [heq, Option.some.inj h]
      exact List.mem_cons_self ..
    · exact List.mem_cons_of_mem _ (ih h)

theorem mem_insert_self : (key, value) ∈ d.insert key value := by
  induction d with
  | nil => exact List.mem_singleton_self _
  | cons e rest ih =>
    obtain ⟨k, v⟩ := e
    rw [insert]
    split
    · exact List.mem_cons_self ..
    · split
      · exact List.mem_cons_self ..
      · exact List.mem_cons_of_mem _ ih

theorem eq_or_mem_of_mem_insert (h : entry ∈ d.insert key value) :
    entry = (key, value) ∨ entry ∈ d := by
  induction d with
  | nil => exact Or.inl (List.mem_singleton.1 h)
  | cons e rest ih =>
    obtain ⟨k, v⟩ := e
    rw [insert] at h
    split at h
    · exact List.mem_cons.1 h
    · split at h
      · exact (List.mem_cons.1 h).imp_right (List.mem_cons_of_mem _)
      · rcases List.mem_cons.1 h with rfl | h
        · exact Or.inr (List.mem_cons_self ..)
        · exact (ih h).imp_right (List.mem_cons_of_mem _)

/-- An entry stays, unless it is the one found under the key. -/
theorem mem_insert_or_get?_eq (key : String) (value : α) (h : entry ∈ d) :
    entry ∈ d.insert key value ∨ entry.1 = key ∧ d.get? key = some entry.2 := by
  induction d with
  | nil => nomatch h
  | cons e rest ih =>
    obtain ⟨k, v⟩ := e
    rw [insert, get?_cons]
    split
    · exact Or.inl (List.mem_cons_of_mem _ h)
    · split
      · rename_i heq
        rw [if_pos heq.symm]
        rcases List.mem_cons.1 h with rfl | h
        · exact Or.inr ⟨heq.symm, rfl⟩
        · exact Or.inl (List.mem_cons_of_mem _ h)
      · rename_i hne
        rw [if_neg (Ne.symm hne)]
        rcases List.mem_cons.1 h with rfl | h
        · exact Or.inl (List.mem_cons_self ..)
        · exact (ih h).imp_left (List.mem_cons_of_mem _)

/-- Under a new key one entry is added. -/
theorem mem_insert_iff (h : d.contains key = false) :
    entry ∈ d.insert key value ↔ entry = (key, value) ∨ entry ∈ d := by
  constructor
  · exact eq_or_mem_of_mem_insert
  · rintro (rfl | hmem)
    · exact mem_insert_self
    · rcases mem_insert_or_get?_eq key value hmem with hmem | ⟨-, hget⟩
      · exact hmem
      · rw [contains, hget] at h
        cases h

/-! ## Entries in order -/

/-- Entries in the order of their keys, one under each key. -/
def IsSorted (d : Dict α) : Prop := d.Pairwise fun e e' => e.1 < e'.1

theorem IsSorted.insert (h : d.IsSorted) (key : String) (value : α) :
    (d.insert key value).IsSorted := by
  induction d with
  | nil => exact List.pairwise_singleton _ _
  | cons e rest ih =>
    obtain ⟨k, v⟩ := e
    obtain ⟨hfirst, hrest⟩ := List.pairwise_cons.1 h
    rw [Dict.insert]
    split
    · rename_i hlt
      refine .cons ?_ h
      intro e he
      rcases List.mem_cons.1 he with rfl | he
      · exact hlt
      · exact String.lt_trans hlt (hfirst e he)
    · split
      · rename_i heq
        subst heq
        exact .cons hfirst hrest
      · rename_i hle hne
        have hlt : k < key := Std.lt_of_le_of_ne hle (Ne.symm hne)
        refine .cons ?_ (ih hrest)
        intro e he
        rcases eq_or_mem_of_mem_insert he with rfl | he
        · exact hlt
        · exact hfirst e he

/-- In order, what is found under the keys are the entries. -/
theorem IsSorted.get?_eq_some_iff (h : d.IsSorted) :
    d.get? key = some value ↔ (key, value) ∈ d := by
  refine ⟨mem_of_get?_eq_some, fun hmem => ?_⟩
  induction d with
  | nil => cases hmem
  | cons e rest ih =>
    obtain ⟨k, v⟩ := e
    obtain ⟨hfirst, hrest⟩ := List.pairwise_cons.1 h
    rw [get?_cons]
    rcases List.mem_cons.1 hmem with heq | hmem
    · obtain ⟨rfl, rfl⟩ := Prod.mk.inj heq
      rw [if_pos rfl]
    · have hne : k ≠ key := by
        rintro rfl
        exact String.lt_irrefl k (hfirst (k, value) hmem)
      rw [if_neg hne, ih hrest hmem]

/-! ## Dictionaries of lists -/

/-- Contents may be mapped before or after an insertion. -/
theorem map_insert {β : Type} (f : α → β) (d : Dict α) (key : String) (value : α) :
    (d.insert key value).map (fun e => (e.1, f e.2)) =
      Dict.insert (d.map fun e => (e.1, f e.2)) key (f value) := by
  induction d with
  | nil => rfl
  | cons e rest ih =>
    obtain ⟨k, v⟩ := e
    rw [insert, List.map_cons, insert]
    split
    · rfl
    · split
      · rfl
      · rw [List.map_cons, ih]

theorem map_ofList {β : Type} (f : α → β) (entries : List (String × α)) :
    (ofList entries).map (fun e => (e.1, f e.2)) = ofList (entries.map fun e => (e.1, f e.2)) := by
  have hfold (d : Dict α) :
      (entries.foldl (fun d e => d.insert e.1 e.2) d).map (fun e => (e.1, f e.2)) =
        (entries.map fun e => (e.1, f e.2)).foldl (fun d e => Dict.insert d e.1 e.2)
          (d.map fun e => (e.1, f e.2)) := by
    induction entries generalizing d with
    | nil => rfl
    | cons e rest ih => rw [List.foldl_cons, ih, map_insert, List.map_cons, List.foldl_cons]
  exact hfold []

/-- Under distinct keys all entries stay. -/
theorem mem_ofList_iff {entries : List (String × α)} (h : (entries.map Prod.fst).Nodup) :
    entry ∈ ofList entries ↔ entry ∈ entries := by
  have hfold (d : Dict α) (hd : ∀ e ∈ entries, d.contains e.1 = false) :
      entry ∈ entries.foldl (fun d e => d.insert e.1 e.2) d ↔ entry ∈ d ∨ entry ∈ entries := by
    induction entries generalizing d with
    | nil => simp
    | cons e rest ih =>
      obtain ⟨hfirst, hrest⟩ := List.nodup_cons.1 h
      have hnew : ∀ e' ∈ rest, (d.insert e.1 e.2).contains e'.1 = false := by
        intro e' he'
        have hne : e.1 ≠ e'.1 := fun heq => hfirst (heq ▸ List.mem_map_of_mem he')
        rw [contains, get?_insert_of_ne d hne]
        exact hd e' (List.mem_cons_of_mem _ he')
      rw [List.foldl_cons, ih hrest _ hnew, mem_insert_iff (hd e (List.mem_cons_self ..)),
        List.mem_cons, or_assoc, or_left_comm]
  exact (hfold [] fun _ _ => rfl).trans (by simp)

end TypedQuery.Dict
