import Mathlib
import TypedQuery.Json.Basic

/-!
# The equality of documents

Documents are equal part by part, and their floating-point numbers as numbers.  Since these are
finite, every document is equal to itself (`Json.same_self`), and documents that are equal to one
are equal to each other (`Json.same_of_same`).  Both go by the induction `Json.induct`, which has a
hypothesis for each item of an array and for the content of each field of an object.
-/

namespace TypedQuery

/-- What two lists have in common with a third one, member by member, they have with each other. -/
theorem forall₂_of_forall₂ {α : Type} {R S : α → α → Prop} {as bs cs : List α}
    (h : ∀ c ∈ cs, ∀ a b, R a c → R b c → S a b) (ha : List.Forall₂ R as cs)
    (hb : List.Forall₂ R bs cs) : List.Forall₂ S as bs := by
  induction ha generalizing bs with
  | nil =>
    cases hb
    exact .nil
  | cons hac _ ih =>
    cases hb with
    | cons hbc hb =>
      exact .cons (h _ (List.mem_cons_self ..) _ _ hac hbc)
        (ih (fun c hc => h c (List.mem_cons_of_mem _ hc)) hb)

namespace Json

/-- Induction on documents. -/
@[elab_as_elim]
theorem induct {motive : Json → Prop} (null : motive .null) (bool : ∀ b, motive (.bool b))
    (number : ∀ n, motive (.number n)) (string : ∀ s, motive (.string s))
    (array : ∀ items, (∀ j ∈ items, motive j) → motive (.array items))
    (object : ∀ fields, (∀ f ∈ fields, motive f.2) → motive (.object fields)) (j : Json) :
    motive j :=
  @Json.rec motive (fun items => ∀ j ∈ items, motive j) (fun fields => ∀ f ∈ fields, motive f.2)
    (fun f => motive f.2) null bool number string array object nofun
    (fun _ _ hj hitems => List.forall_mem_cons.2 ⟨hj, hitems⟩) nofun
    (fun _ _ hf hfields => List.forall_mem_cons.2 ⟨hf, hfields⟩) (fun _ _ hj => hj) j

/-! ## Numbers -/

theorem float_ne_nan {x : Float} (finite : x.isFinite = true) : x ≠ Float.nan := by
  rintro rfl
  exact absurd finite (by decide)

theorem Number.same_self (n : Number) : n.same n = true := by
  cases n with
  | integer n fits => exact beq_self_eq_true n
  | float x finite => exact Float.beq_self_iff.2 (float_ne_nan finite)

/-- The two zeros are equal numbers, and otherwise equal numbers are the same. -/
theorem float_beq_of_beq {x y z : Float} (hx : (x == z) = true) (hy : (y == z) = true) :
    (x == y) = true := by
  rw [Float.beq_iff_ne_nan_and_eq] at *
  obtain ⟨hxn, -, hx⟩ := hx
  obtain ⟨hyn, -, hy⟩ := hy
  refine ⟨hxn, hyn, ?_⟩
  rcases hx with rfl | ⟨rfl, rfl⟩ | ⟨rfl, rfl⟩
  · exact hy.imp Eq.symm fun h => h.symm.imp And.symm And.symm
  · rcases hy with rfl | ⟨rfl, -⟩ | ⟨rfl, -⟩ <;> simp
  · rcases hy with rfl | ⟨rfl, -⟩ | ⟨rfl, -⟩ <;> simp

theorem Number.same_of_same {m n k : Number} (hm : m.same k = true) (hn : n.same k = true) :
    m.same n = true := by
  cases k with
  | integer k _ =>
    cases m with
    | float => cases hm
    | integer m _ =>
      cases n with
      | float => cases hn
      | integer n _ => exact beq_iff_eq.2 ((beq_iff_eq.1 hm).trans (beq_iff_eq.1 hn).symm)
  | float z _ =>
    cases m with
    | integer => cases hm
    | float x _ =>
      cases n with
      | integer => cases hn
      | float y _ => exact float_beq_of_beq hm hn

/-! ## Items and fields -/

theorem sameItems_iff {as bs : List Json} :
    sameItems as bs = true ↔ List.Forall₂ (fun a b => a.same b = true) as bs := by
  induction as generalizing bs with
  | nil => cases bs <;> simp [sameItems]
  | cons a as ih => cases bs <;> simp [sameItems, ih]

theorem sameFields_iff {as bs : List (String × Json)} :
    sameFields as bs = true ↔
      List.Forall₂ (fun a b => a.1 = b.1 ∧ a.2.same b.2 = true) as bs := by
  induction as generalizing bs with
  | nil => cases bs <;> simp [sameFields]
  | cons a as ih => cases bs <;> simp [sameFields, ih]

/-! ## Whole documents -/

/-- A document is equal to itself. -/
theorem same_self (j : Json) : j.same j = true := by
  induction j using Json.induct with
  | null => rfl
  | bool b => exact beq_self_eq_true b
  | number n => exact n.same_self
  | string s => exact beq_self_eq_true s
  | array items ih => exact sameItems_iff.2 (List.forall₂_same.2 ih)
  | object fields ih => exact sameFields_iff.2 (List.forall₂_same.2 fun f hf => ⟨rfl, ih f hf⟩)

/-- Documents that are equal to one are equal to each other. -/
theorem same_of_same {j k l : Json} (hj : j.same l = true) (hk : k.same l = true) :
    j.same k = true := by
  induction l using Json.induct generalizing j k with
  | null =>
    cases j with
    | null =>
      cases k with
      | null => rfl
      | _ => cases hk
    | _ => cases hj
  | bool c =>
    cases j with
    | bool a =>
      cases k with
      | bool b => exact beq_iff_eq.2 ((beq_iff_eq.1 hj).trans (beq_iff_eq.1 hk).symm)
      | _ => cases hk
    | _ => cases hj
  | number c =>
    cases j with
    | number a =>
      cases k with
      | number b => exact Number.same_of_same hj hk
      | _ => cases hk
    | _ => cases hj
  | string c =>
    cases j with
    | string a =>
      cases k with
      | string b => exact beq_iff_eq.2 ((beq_iff_eq.1 hj).trans (beq_iff_eq.1 hk).symm)
      | _ => cases hk
    | _ => cases hj
  | array cs ih =>
    cases j with
    | array as =>
      cases k with
      | array bs =>
        exact sameItems_iff.2 (forall₂_of_forall₂ (fun c hc _ _ => ih c hc)
          (sameItems_iff.1 hj) (sameItems_iff.1 hk))
      | _ => cases hk
    | _ => cases hj
  | object cs ih =>
    cases j with
    | object as =>
      cases k with
      | object bs =>
        refine sameFields_iff.2 (forall₂_of_forall₂ (fun c hc a b ha hb => ?_)
          (sameFields_iff.1 hj) (sameFields_iff.1 hk))
        exact ⟨ha.1.trans hb.1.symm, ih c hc ha.2 hb.2⟩
      | _ => cases hk
    | _ => cases hj

end Json

end TypedQuery
