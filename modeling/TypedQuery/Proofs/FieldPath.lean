import Mathlib.Data.List.DropRight
import Mathlib.Data.List.Forall2
import TypedQuery.Request
import TypedQuery.Text.Spelling

/-!
# Names in a path

A path is cut at its points, and of each part the blanks at the ends fall away.  What remains is a
name that a path can hold (`IsPathName`), so a path that is put together from such names holds them
again: `FieldPath.segments_ofSegments`.  Points and blanks have no letter case, so cutting and
trimming do not look at it, and paths that differ in nothing else hold names that differ in nothing
else: `FieldPath.segments_eqIgnoringCase`.
-/

namespace TypedQuery

open Text

theorem isEmpty_eq_of_forall₂ {α β : Type} {R : α → β → Prop} {as : List α} {bs : List β}
    (h : List.Forall₂ R as bs) : as.isEmpty = bs.isEmpty := by
  cases h <;> rfl

/-! ## Blanks at the ends -/

section Trimmed

variable {cs : List Char}

/-- What is left after the blanks in front is blank only if the whole text is. -/
theorem forall_mem_dropBlank_iff :
    (∀ c ∈ dropBlank cs, isBlank c = true) ↔ ∀ c ∈ cs, isBlank c = true := by
  induction cs with
  | nil => simp [dropBlank]
  | cons c cs ih =>
    cases hc : isBlank c with
    | true =>
      have hdrop : dropBlank (c :: cs) = dropBlank cs := by simp [dropBlank, hc]
      rw [hdrop, ih, List.forall_mem_cons]
      exact (and_iff_right hc).symm
    | false => rw [dropBlank_cons_of_not_blank hc]

theorem trimmed_eq_rdropWhile (cs : List Char) :
    trimmed cs = (cs.dropWhile isBlank).rdropWhile isBlank := rfl

theorem trimmed_eq_nil_iff : trimmed cs = [] ↔ ∀ c ∈ cs, isBlank c = true := by
  rw [trimmed_eq_rdropWhile, List.rdropWhile_eq_nil_iff]
  exact forall_mem_dropBlank_iff

theorem trimmed_sublist (cs : List Char) : (trimmed cs).Sublist cs :=
  (List.rdropWhile_prefix ..).sublist.trans (List.dropWhile_suffix _).sublist

/-- What begins as a text without blanks in front does has none in front either. -/
theorem dropBlank_of_prefix {begun : List Char} (h : begun <+: dropBlank cs) :
    dropBlank begun = begun := by
  obtain ⟨rest, hrest⟩ := h
  cases begun with
  | nil => rfl
  | cons c begun =>
    have hfirst := List.head?_dropWhile_not isBlank cs
    rw [show cs.dropWhile isBlank = c :: (begun ++ rest) from hrest.symm] at hfirst
    exact dropBlank_cons_of_not_blank hfirst begun

theorem trimmed_trimmed (cs : List Char) : trimmed (trimmed cs) = trimmed cs := by
  have hfirst : (trimmed cs).dropWhile isBlank = trimmed cs :=
    dropBlank_of_prefix (List.rdropWhile_prefix isBlank (cs.dropWhile isBlank))
  rw [trimmed_eq_rdropWhile (trimmed cs), hfirst, trimmed_eq_rdropWhile, List.rdropWhile_idempotent]

end Trimmed

/-! ## Letter case of points and blanks -/

/-- From `A` to `z` there are neither blanks nor points. -/
theorem not_blank_of_letter {c : Char} (hlo : 65 ≤ c.toNat) (hhi : c.toNat ≤ 122) :
    isBlank c = false ∧ c ≠ '.' := by
  refine ⟨?_, fun hpoint => ?_⟩
  · simp only [isBlank, Bool.or_eq_false_iff, Bool.and_eq_false_iff, decide_eq_false_iff_not,
      beq_eq_false_iff_ne]
    omega
  · rw [hpoint] at hlo
    exact absurd hlo (by decide)

/-- Lower case changes nothing but letters, and those into letters. -/
theorem toLower_cases (c : Char) :
    c.toLower = c ∨
      (65 ≤ c.toNat ∧ c.toNat ≤ 122) ∧ 65 ≤ c.toLower.toNat ∧ c.toLower.toNat ≤ 122 := by
  unfold Char.toLower
  split
  · rename_i hupper
    have hlo : 65 ≤ c.toNat := UInt32.le_iff_toNat_le.1 hupper.1
    have hhi : c.toNat ≤ 90 := UInt32.le_iff_toNat_le.1 hupper.2
    have hshift : (c.val + ('a'.val - 'A'.val)).toNat = c.toNat + 32 := by
      rw [UInt32.toNat_add, show ('a'.val - 'A'.val).toNat = 32 from rfl, Char.toNat_val]
      exact Nat.mod_eq_of_lt (by omega)
    refine Or.inr ⟨⟨hlo, by omega⟩, ?_⟩
    change 65 ≤ (c.val + ('a'.val - 'A'.val)).toNat ∧ (c.val + ('a'.val - 'A'.val)).toNat ≤ 122
    omega
  · exact Or.inl rfl

@[simp] theorem isBlank_toLower (c : Char) : isBlank c.toLower = isBlank c := by
  rcases toLower_cases c with h | ⟨⟨hlo, hhi⟩, hlo', hhi'⟩
  · rw [h]
  · rw [(not_blank_of_letter hlo hhi).1, (not_blank_of_letter hlo' hhi').1]

@[simp] theorem toLower_eq_point_iff {c : Char} : c.toLower = '.' ↔ c = '.' := by
  rcases toLower_cases c with h | ⟨⟨hlo, hhi⟩, hlo', hhi'⟩
  · rw [h]
  · exact iff_of_false (not_blank_of_letter hlo' hhi').2 (not_blank_of_letter hlo hhi).2

theorem trimmed_map_toLower (cs : List Char) :
    trimmed (cs.map Char.toLower) = (trimmed cs).map Char.toLower := by
  have hblank : isBlank ∘ Char.toLower = isBlank := funext isBlank_toLower
  simp only [trimmed, dropBlank, List.dropWhile_map, ← List.map_reverse, hblank]

namespace FieldPath

theorem splitAtPoints_map_toLower (part cs : List Char) :
    splitAtPoints (part.map Char.toLower) (cs.map Char.toLower) =
      (splitAtPoints part cs).map (List.map Char.toLower) := by
  induction cs generalizing part with
  | nil => simp [splitAtPoints]
  | cons c cs ih =>
    rw [List.map_cons, splitAtPoints, splitAtPoints]
    by_cases hpoint : c = '.'
    · have hlower : c.toLower = '.' := toLower_eq_point_iff.2 hpoint
      rw [if_pos (beq_iff_eq.2 hpoint), if_pos (beq_iff_eq.2 hlower), List.map_cons, ← ih,
        List.map_reverse, List.map_nil]
    · have hlower : ¬ c.toLower = '.' := mt toLower_eq_point_iff.1 hpoint
      rw [if_neg (by simpa using hpoint), if_neg (by simpa using hlower), ← ih, List.map_cons]

/-- The names of a path in lower case are those of the path in lower case. -/
theorem segments_map_toLower (p : FieldPath) :
    p.segments.map (fun name => name.toList.map Char.toLower) =
      ((splitAtPoints [] (p.raw.toList.map Char.toLower)).map trimmed).filter (!·.isEmpty) := by
  have hsplit := splitAtPoints_map_toLower [] p.raw.toList
  rw [List.map_nil] at hsplit
  have htrimmed : trimmed ∘ List.map Char.toLower = List.map Char.toLower ∘ trimmed :=
    funext trimmed_map_toLower
  have hempty : (fun cs : List Char => !cs.isEmpty) ∘ List.map Char.toLower =
      fun cs => !cs.isEmpty := by
    funext cs
    simp
  rw [hsplit, List.map_map, htrimmed, ← List.map_map, List.filter_map, hempty, segments,
    List.map_map]
  simp

/-- Paths that are equal up to letter case hold names that are. -/
theorem segments_eqIgnoringCase {p q : FieldPath} (h : eqIgnoringCase p.raw q.raw = true) :
    List.Forall₂ (fun a b => eqIgnoringCase a b = true) p.segments q.segments := by
  have hlower := p.segments_map_toLower
  rw [eqIgnoringCase_iff.1 h, ← q.segments_map_toLower, ← List.forall₂_eq_eq_eq,
    List.forall₂_map_left_iff, List.forall₂_map_right_iff] at hlower
  simpa only [eqIgnoringCase_iff] using hlower

end FieldPath

/-! ## Names -/

/-- A text that a path can hold as a name: there is something in it, no point, and no blank at
either end. -/
structure IsPathName (name : String) : Prop where
  ne_nil : name.toList ≠ []
  point_not_mem : '.' ∉ name.toList
  trimmed_eq : trimmed name.toList = name.toList

/-- Letter case does not make a difference to what is a name. -/
theorem IsPathName.of_eqIgnoringCase {a b : String} (h : IsPathName b)
    (heq : eqIgnoringCase a b = true) : IsPathName a := by
  have hlower := eqIgnoringCase_iff.1 heq
  have hlength : a.toList.length = b.toList.length := by
    simpa using congrArg List.length hlower
  refine ⟨fun hnil => h.ne_nil ?_, fun hpoint => h.point_not_mem ?_, ?_⟩
  · rw [← List.length_eq_zero_iff, ← hlength, hnil, List.length_nil]
  · have hmem : '.' ∈ a.toList.map Char.toLower := List.mem_map.2 ⟨'.', hpoint, rfl⟩
    rw [hlower] at hmem
    obtain ⟨c, hc, hlower⟩ := List.mem_map.1 hmem
    rwa [← toLower_eq_point_iff.1 hlower]
  · -- As many blanks fall away as from the other name.
    refine (trimmed_sublist _).eq_of_length ?_
    have htrimmed := congrArg trimmed hlower
    rw [trimmed_map_toLower, trimmed_map_toLower, h.trimmed_eq] at htrimmed
    rw [hlength]
    simpa using congrArg List.length htrimmed

namespace FieldPath

theorem point_not_mem_of_mem_splitAtPoints {part cs : List Char} (hpart : '.' ∉ part)
    {piece : List Char} (h : piece ∈ splitAtPoints part cs) : '.' ∉ piece := by
  induction cs generalizing part with
  | nil =>
    rw [List.mem_singleton.1 h, List.mem_reverse]
    exact hpart
  | cons c cs ih =>
    rw [splitAtPoints] at h
    split at h
    · rcases List.mem_cons.1 h with rfl | h
      · rwa [List.mem_reverse]
      · exact ih List.not_mem_nil h
    · rename_i hpoint
      refine ih (fun hmem => ?_) h
      rcases List.mem_cons.1 hmem with rfl | hmem
      · exact hpoint rfl
      · exact hpart hmem

theorem isPathName_of_mem_segments {p : FieldPath} {name : String} (h : name ∈ p.segments) :
    IsPathName name := by
  obtain ⟨cs, hcs, rfl⟩ := List.mem_map.1 h
  obtain ⟨hmem, hne⟩ := List.mem_filter.1 hcs
  obtain ⟨piece, hpiece, rfl⟩ := List.mem_map.1 hmem
  refine ⟨?_, ?_, ?_⟩
  · simpa using hne
  · rw [String.toList_ofList]
    exact fun hpoint => point_not_mem_of_mem_splitAtPoints List.not_mem_nil hpiece
      ((trimmed_sublist piece).subset hpoint)
  · rw [String.toList_ofList, trimmed_trimmed]

theorem isEmpty_eq_false_iff {p : FieldPath} :
    p.isEmpty = false ↔
      ∃ part ∈ splitAtPoints [] p.raw.toList, ∃ c ∈ part, isBlank c = false := by
  have hpart : ∀ part, trimmed part ≠ [] ↔ ∃ c ∈ part, isBlank c = false := by
    intro part
    simp [trimmed_eq_nil_iff]
  simp [isEmpty, segments, ← hpart]

/-- Cutting at points, with a part that is begun. -/
theorem splitAtPoints_eq (part cs : List Char) :
    splitAtPoints part cs = List.splitOnPPrepend (· == '.') cs part := by
  induction cs generalizing part with
  | nil => simp [splitAtPoints]
  | cons c cs ih =>
    rw [splitAtPoints, List.splitOnPPrepend_cons_eq_if, ih, ih, List.splitOnP_eq_splitOnPPrepend]

/-- A path of names holds these names. -/
theorem segments_ofSegments {names : List String} (h : ∀ name ∈ names, IsPathName name) :
    (ofSegments names).segments = names := by
  cases names with
  | nil => rfl
  | cons name names =>
    have hsplit : splitAtPoints [] (ofSegments (name :: names)).raw.toList =
        (name :: names).map String.toList := by
      rw [splitAtPoints_eq, ← List.splitOnP_eq_splitOnPPrepend, ofSegments,
        String.toList_intercalate]
      refine List.splitOn_intercalate '.' ?_ (List.cons_ne_nil _ _)
      intro cs hcs
      obtain ⟨other, hother, rfl⟩ := List.mem_map.1 hcs
      exact (h other hother).point_not_mem
    have htrimmed : ((name :: names).map String.toList).map trimmed =
        (name :: names).map String.toList := by
      rw [List.map_map]
      exact List.map_congr_left fun other hother => (h other hother).trimmed_eq
    have hkept : ((name :: names).map String.toList).filter (fun cs => !cs.isEmpty) =
        (name :: names).map String.toList := by
      refine List.filter_eq_self.2 fun cs hcs => ?_
      obtain ⟨other, hother, rfl⟩ := List.mem_map.1 hcs
      simpa using (h other hother).ne_nil
    rw [segments, hsplit, htrimmed, hkept, List.map_map]
    simp

end FieldPath

end TypedQuery
