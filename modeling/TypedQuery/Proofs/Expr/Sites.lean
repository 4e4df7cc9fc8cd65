import Mathlib.Data.Finset.Basic
import TypedQuery.Proofs.Expr.Free

/-!
# Where parameters occur

`Expr.sites` lists every place where a parameter occurs, with all that the lambdas around it declare,
and `Site.isFree` says of a place that none of these lambdas declares the parameter.  The free
parameters are read off that list: `Expr.freeParameters_firstUse`.  The occurrences of
`Expr.occurrences` are the free places (`Expr.occurrences_eq_map_sites`); that the places are all
there are, in the order of `Expr.nodes`, is `Expr.map_param_sites`.

`Expr.walk` finds the same parameters with one set of declared identities for the whole expression.
At a lambda it adds the parameters that the set does not have yet, and takes out exactly these when
it has been through the body.  So it ends with the set that it began with, however often a parameter
is declared again on the way: `Expr.walk_eq`.
-/

namespace TypedQuery

/-! ## Places -/

/-- A place where a parameter occurs: the parameter as it stands there, and the parameters of each
lambda around it, the outermost lambda first. -/
structure Site where
  param : Parameter
  scopes : List (List Parameter)

namespace Site

/-- The place within one more lambda. -/
def within (params : List Parameter) (s : Site) : Site := { s with scopes := params :: s.scopes }

/-- Whether no lambda around the place declares the parameter. -/
def isFree (s : Site) : Bool := s.scopes.all fun params => params.all fun q => q.id != s.param.id

/-- Whether a parameter of the identity occurs here and no lambda around the place declares it. -/
def isFreeOf (id : ParamId) (s : Site) : Bool := s.isFree && s.param.id == id

theorem isFree_within (params : List Parameter) (s : Site) :
    (s.within params).isFree = (s.isFree && !(params.map Parameter.id).contains s.param.id) := by
  have hall : (params.all fun q => q.id != s.param.id) =
      !(params.map Parameter.id).contains s.param.id := by
    rw [Bool.eq_iff_iff]
    simp
  rw [← hall, Bool.and_comm]
  rfl

end Site

namespace Expr

mutual

/-- The places where parameters occur, from left to right. -/
def sites : Expr → List Site
  | .param p => [⟨p, []⟩]
  | .const _ _ => []
  | .member e _ _ => e.sites
  | .binary _ l r => l.sites ++ r.sites
  | .not e => e.sites
  | .compare l r => l.sites ++ r.sites
  | .text e => e.sites
  | .contains _ e => e.sites
  | .call _ source args => source.sites ++ sitesOfItems args
  | .lambda params body => body.sites.map (Site.within params)
  | .new _ fields => sitesOfFields fields

/-- The places in the expressions. -/
def sitesOfItems : List Expr → List Site
  | [] => []
  | e :: rest => e.sites ++ sitesOfItems rest

/-- The places in the fields. -/
def sitesOfFields : List (String × Expr) → List Site
  | [] => []
  | (_, e) :: rest => e.sites ++ sitesOfFields rest

end

@[simp] theorem sitesOfItems_eq_flatMap (es : List Expr) : sitesOfItems es = es.flatMap sites := by
  induction es with
  | nil => rfl
  | cons e es ih => rw [sitesOfItems, ih, List.flatMap_cons]

@[simp] theorem sitesOfFields_eq_flatMap (fields : List (String × Expr)) :
    sitesOfFields fields = fields.flatMap fun f => f.2.sites := by
  induction fields with
  | nil => rfl
  | cons f fields ih => rw [sitesOfFields, ih, List.flatMap_cons]

/-- The parameter that the expression is. -/
def param? : Expr → Option Parameter
  | .param p => some p
  | _ => none

/-- The places are those of all parameters among the parts of the expression, in their order. -/
theorem map_param_sites (e : Expr) : e.sites.map Site.param = e.nodes.filterMap param? := by
  induction e with
  | param p => rfl
  | const v t => rfl
  | member e name t ih => exact ih
  | binary op l r hl hr | compare l r hl hr =>
    rw [sites, List.map_append, hl, hr, ← List.filterMap_append]
    rfl
  | not e ih | text e ih => exact ih
  | contains set e ih => exact ih
  | call op source args hsource hargs =>
    rw [sites, sitesOfItems_eq_flatMap, List.map_append, hsource, List.map_flatMap, nodes_call,
      List.filterMap_cons_none rfl, List.filterMap_append, List.filterMap_flatMap]
    exact congrArg _ (List.flatMap_congr hargs)
  | lambda params body ih =>
    rw [sites, List.map_map, nodes_lambda, List.filterMap_cons_none rfl]
    exact ih
  | new type fields hfields =>
    rw [sites, sitesOfFields_eq_flatMap, List.map_flatMap, nodes_new, List.filterMap_cons_none rfl,
      List.filterMap_flatMap]
    exact List.flatMap_congr hfields

/-- The occurrences outside every lambda that declares them are the free places. -/
theorem occurrences_eq_map_sites (e : Expr) :
    e.occurrences = (e.sites.filter Site.isFree).map Site.param := by
  induction e with
  | param p => rfl
  | const v t => rfl
  | member e name t ih => exact ih
  | binary op l r hl hr =>
    rw [occurrences_binary, sites, hl, hr, List.filter_append, List.map_append]
  | compare l r hl hr =>
    rw [occurrences_compare, sites, hl, hr, List.filter_append, List.map_append]
  | not e ih | text e ih => exact ih
  | contains set e ih => exact ih
  | call op source args hsource hargs =>
    rw [occurrences_call, sites, hsource, sitesOfItems_eq_flatMap, List.filter_append,
      List.map_append, List.filter_flatMap, List.map_flatMap]
    exact congrArg _ (List.flatMap_congr hargs)
  | lambda params body ih =>
    rw [occurrences_lambda, sites, ih, List.filter_map, List.filter_filter, List.filter_map,
      List.map_map]
    refine congrArg (List.map Site.param) (List.filter_congr fun s _ => ?_)
    exact ((Site.isFree_within params s).trans (Bool.and_comm ..)).symm
  | new type fields hfields =>
    rw [occurrences_new, sites, sitesOfFields_eq_flatMap, List.filter_flatMap, List.map_flatMap]
    exact List.flatMap_congr hfields

end Expr

/-! ## First places -/

section FirstPlaces

variable {sites : List Site} {s : Site} {id : ParamId} {p : Parameter}

/-- The parameters of free places, each identity once. -/
def firstParameters (sites : List Site) : List Parameter :=
  ((sites.filter Site.isFree).map Site.param).foldl addParameter []

theorem firstParameters_concat (sites : List Site) (s : Site) :
    firstParameters (sites ++ [s]) =
      if s.isFree then addParameter (firstParameters sites) s.param else firstParameters sites := by
  rw [firstParameters, List.filter_append, List.map_append, List.foldl_append, List.filter_cons]
  split <;> rfl

/-- The identities found are those with a free place. -/
theorem mem_map_id_firstParameters :
    id ∈ (firstParameters sites).map Parameter.id ↔ sites.any (Site.isFreeOf id) = true := by
  rw [firstParameters, mem_map_id_foldl_addParameter, List.any_eq_true]
  simp [Site.isFreeOf, and_assoc]

/-- Each is the parameter of the first free place of its identity. -/
theorem mem_firstParameters :
    p ∈ firstParameters sites ↔ (sites.find? (Site.isFreeOf p.id)).map Site.param = some p := by
  have hfreeOf : (fun s : Site => decide (s.isFree = true ∧ (s.param.id == p.id) = true)) =
      Site.isFreeOf p.id := by
    funext s
    rw [Bool.eq_iff_iff]
    simp [Site.isFreeOf]
  rw [firstParameters, mem_foldl_addParameter, List.find?_map, List.find?_filter, ← hfreeOf]
  simp

/-- One more place behind the others does not change which place of an identity is the first. -/
theorem findIdx_concat_of_any (h : sites.any (Site.isFreeOf id) = true) :
    (sites ++ [s]).findIdx (Site.isFreeOf id) = sites.findIdx (Site.isFreeOf id) := by
  rw [List.findIdx_append, if_pos (List.findIdx_lt_length_of_exists (List.any_eq_true.1 h))]

/-- The parameters found are in the order of the first free places of their identities. -/
theorem pairwise_firstParameters (sites : List Site) :
    (firstParameters sites).Pairwise fun p q =>
      sites.findIdx (Site.isFreeOf p.id) < sites.findIdx (Site.isFreeOf q.id) := by
  induction sites using List.reverseRecOn with
  | nil => exact List.Pairwise.nil
  | append_singleton sites s ih =>
    have hany : ∀ p ∈ firstParameters sites, sites.any (Site.isFreeOf p.id) = true :=
      fun p hp => mem_map_id_firstParameters.1 (List.mem_map_of_mem hp)
    have hfound : (firstParameters sites).Pairwise fun p q =>
        (sites ++ [s]).findIdx (Site.isFreeOf p.id) < (sites ++ [s]).findIdx (Site.isFreeOf q.id) :=
      ih.imp_of_mem fun {p q} hp hq hlt => by
        rwa [findIdx_concat_of_any (hany p hp), findIdx_concat_of_any (hany q hq)]
    rw [firstParameters_concat]
    split
    · rename_i hfree
      rcases addParameter_cases (firstParameters sites) s.param with ⟨-, hadd⟩ | ⟨hnew, hadd⟩
      · rw [hadd]
        exact hfound
      · -- A new identity has no free place before the last one.
        have hnone : ¬ sites.any (Site.isFreeOf s.param.id) = true :=
          fun hany => hnew (mem_map_id_firstParameters.2 hany)
        have hlast : (sites ++ [s]).findIdx (Site.isFreeOf s.param.id) = sites.length := by
          rw [List.any_eq_true, not_exists] at hnone
          rw [List.findIdx_append, List.findIdx_eq_length.2 (by simpa using hnone),
            if_neg (Nat.lt_irrefl _)]
          simp [List.findIdx_cons, Site.isFreeOf, hfree]
        rw [hadd]
        refine List.pairwise_append.2 ⟨hfound, List.pairwise_singleton .., fun p hp q hq => ?_⟩
        rw [List.mem_singleton.1 hq, hlast, findIdx_concat_of_any (hany p hp)]
        exact List.findIdx_lt_length_of_exists (List.any_eq_true.1 (hany p hp))
    · exact hfound

end FirstPlaces

/-! ## One set of declared identities -/

/-- What a walk over an expression has at hand: the identities that are declared where it is, and
the parameters it has found. -/
structure Walk where
  declared : Finset ParamId
  found : List Parameter

/-- Adds parameters to the declared identities, and says which of them were new. -/
def declareNew (declared : Finset ParamId) : List Parameter → Finset ParamId × List ParamId
  | [] => (declared, [])
  | p :: ps =>
    if p.id ∈ declared then declareNew declared ps
    else
      let (declared, added) := declareNew (insert p.id declared) ps
      (declared, p.id :: added)

/-- Takes identities out of the declared ones. -/
def withdraw (declared : Finset ParamId) (ids : List ParamId) : Finset ParamId :=
  ids.foldl Finset.erase declared

namespace Expr

mutual

/-- Walks through an expression and adds to the parameters found those that are not declared where
they occur. -/
def walk (w : Walk) : Expr → Walk
  | .param p =>
    if p.id ∈ w.declared then w else { w with found := addParameter w.found p }
  | .const _ _ => w
  | .member e _ _ => e.walk w
  | .binary _ l r => r.walk (l.walk w)
  | .not e => e.walk w
  | .compare l r => r.walk (l.walk w)
  | .text e => e.walk w
  | .contains _ e => e.walk w
  | .call _ source args => walkItems (source.walk w) args
  | .lambda params body =>
    let (declared, added) := declareNew w.declared params
    let after := body.walk { w with declared := declared }
    { after with declared := withdraw after.declared added }
  | .new _ fields => walkFields w fields

/-- Walks through the expressions. -/
def walkItems (w : Walk) : List Expr → Walk
  | [] => w
  | e :: rest => walkItems (e.walk w) rest

/-- Walks through the fields. -/
def walkFields (w : Walk) : List (String × Expr) → Walk
  | [] => w
  | (_, e) :: rest => walkFields (e.walk w) rest

end

end Expr

theorem mem_declareNew {id : ParamId} (declared : Finset ParamId) (params : List Parameter) :
    id ∈ (declareNew declared params).1 ↔ id ∈ declared ∨ id ∈ params.map Parameter.id := by
  induction params generalizing declared with
  | nil => simp [declareNew]
  | cons p params ih =>
    rw [declareNew]
    split
    · rename_i hp
      rw [ih, List.map_cons, List.mem_cons]
      refine ⟨fun h => h.imp_right Or.inr, ?_⟩
      rintro (h | rfl | h)
      · exact Or.inl h
      · exact Or.inl hp
      · exact Or.inr h
    · simp only [ih, Finset.mem_insert, List.map_cons, List.mem_cons]
      tauto

theorem withdraw_erase (declared : Finset ParamId) (id : ParamId) (ids : List ParamId) :
    withdraw (declared.erase id) ids = (withdraw declared ids).erase id := by
  induction ids generalizing declared with
  | nil => rfl
  | cons x ids ih =>
    change withdraw ((declared.erase id).erase x) ids = (withdraw (declared.erase x) ids).erase id
    rw [Finset.erase_right_comm, ih]

/-- What is taken out is what was added, and nothing that was declared before. -/
theorem withdraw_declareNew (declared : Finset ParamId) (params : List Parameter) :
    withdraw (declareNew declared params).1 (declareNew declared params).2 = declared := by
  induction params generalizing declared with
  | nil => rfl
  | cons p params ih =>
    rw [declareNew]
    split
    · exact ih declared
    · rename_i hp
      change withdraw ((declareNew (insert p.id declared) params).1.erase p.id) _ = _
      rw [withdraw_erase, ih, Finset.erase_insert hp]

namespace Walk

/-- The walk with those of some occurrences found that are not declared where it is. -/
def finding (w : Walk) (ps : List Parameter) : Walk :=
  { w with found := (ps.filter (·.id ∉ w.declared)).foldl addParameter w.found }

theorem finding_append (w : Walk) (ps qs : List Parameter) :
    w.finding (ps ++ qs) = (w.finding ps).finding qs := by
  rw [finding, List.filter_append, List.foldl_append]
  rfl

end Walk

namespace Expr

theorem walkItems_eq {es : List Expr} (h : ∀ e ∈ es, ∀ w, e.walk w = w.finding e.occurrences)
    (w : Walk) : walkItems w es = w.finding (es.flatMap occurrences) := by
  induction es generalizing w with
  | nil => rfl
  | cons e es ih =>
    rw [walkItems, h e (List.mem_cons_self ..), ih fun d hd => h d (List.mem_cons_of_mem _ hd),
      List.flatMap_cons, Walk.finding_append]

theorem walkFields_eq {fields : List (String × Expr)}
    (h : ∀ f ∈ fields, ∀ w, f.2.walk w = w.finding f.2.occurrences) (w : Walk) :
    walkFields w fields = w.finding (fields.flatMap fun f => f.2.occurrences) := by
  induction fields generalizing w with
  | nil => rfl
  | cons f fields ih =>
    rw [walkFields, h f (List.mem_cons_self ..), ih fun g hg => h g (List.mem_cons_of_mem _ hg),
      List.flatMap_cons, Walk.finding_append]

/-- A walk finds the occurrences that no lambda around them declares, and leaves what is declared as
it was. -/
theorem walk_eq (e : Expr) (w : Walk) : e.walk w = w.finding e.occurrences := by
  induction e generalizing w with
  | param p =>
    rw [walk, occurrences_param, Walk.finding]
    split <;> simp_all
  | const v t => rfl
  | member e name t ih => exact ih w
  | binary op l r hl hr =>
    rw [walk, hl, hr, occurrences_binary, Walk.finding_append]
  | compare l r hl hr =>
    rw [walk, hl, hr, occurrences_compare, Walk.finding_append]
  | not e ih | text e ih => exact ih w
  | contains set e ih => exact ih w
  | call op source args hsource hargs =>
    rw [walk, hsource, walkItems_eq hargs, occurrences_call, Walk.finding_append]
  | lambda params body ih =>
    simp only [walk, ih, Walk.finding, withdraw_declareNew, occurrences_lambda, List.filter_filter]
    congr 2
    refine List.filter_congr fun p _ => ?_
    rw [Bool.eq_iff_iff]
    simp [mem_declareNew]
  | new type fields hfields =>
    rw [walk, walkFields_eq hfields, occurrences_new]

theorem declared_walk (e : Expr) (w : Walk) : (e.walk w).declared = w.declared := by
  rw [walk_eq]
  rfl

/-! ## Free parameters -/

theorem freeParameters_eq_firstParameters (e : Expr) :
    e.freeParameters = firstParameters e.sites := by
  rw [freeParameters_eq, occurrences_eq_map_sites, firstParameters]

/-- The places are those of all parameters that occur, from left to right.  An identity is among the
free parameters once if a parameter of it occurs outside every lambda that declares it, and not at
all otherwise.  The free parameters are in the order of the first such places, and each is the
parameter that stands there.  A walk with one set of declared identities finds the same ones, and
whatever the set is, it is the same afterwards. -/
theorem freeParameters_firstUse (e : Expr) :
    e.sites.map Site.param = e.nodes.filterMap param? ∧
    (∀ id, (e.freeParameters.map Parameter.id).count id =
      if e.sites.any (Site.isFreeOf id) then 1 else 0) ∧
    (e.freeParameters.map Parameter.id).Pairwise (fun x y =>
      e.sites.findIdx (Site.isFreeOf x) < e.sites.findIdx (Site.isFreeOf y)) ∧
    (∀ p ∈ e.freeParameters, (e.sites.find? (Site.isFreeOf p.id)).map Site.param = some p) ∧
    (e.walk ⟨∅, []⟩).found = e.freeParameters ∧
    ∀ w, (e.walk w).declared = w.declared := by
  have hwalk : (e.walk ⟨∅, []⟩).found = e.freeParameters := by
    rw [walk_eq, Walk.finding, freeParameters_eq]
    simp
  rw [freeParameters_eq_firstParameters] at hwalk ⊢
  have hpairwise : ((firstParameters e.sites).map Parameter.id).Pairwise fun x y =>
      e.sites.findIdx (Site.isFreeOf x) < e.sites.findIdx (Site.isFreeOf y) :=
    List.pairwise_map.2 (pairwise_firstParameters e.sites)
  have hnodup : ((firstParameters e.sites).map Parameter.id).Nodup :=
    hpairwise.imp fun {x y} hlt heq => by
      rw [heq] at hlt
      exact Nat.lt_irrefl _ hlt
  refine ⟨map_param_sites e, fun id => ?_, hpairwise, fun p hp => mem_firstParameters.1 hp, hwalk,
    declared_walk e⟩
  rw [hnodup.count]
  simp only [mem_map_id_firstParameters]

end Expr

namespace Sample

/-- A parameter that lambdas declare. -/
def innerParam : Parameter := ⟨⟨0⟩, "x", .boolean⟩

/-- A parameter of the same identity, under another name. -/
def outerParam : Parameter := ⟨⟨0⟩, "outer", .boolean⟩

/-- A parameter that no lambda declares. -/
def flagParam : Parameter := ⟨⟨1⟩, "flag", .boolean⟩

/-- A lambda that lists a parameter twice, with another in it that declares it again and is followed
by one more occurrence; behind it the parameter occurs where no lambda declares it. -/
def redeclared : Expr :=
  .binary .and
    (.lambda [innerParam, innerParam]
      (.binary .and
        (.lambda [innerParam] (.binary .and innerParam.expr flagParam.expr)) innerParam.expr))
    (.binary .or outerParam.expr innerParam.expr)

end Sample

open Sample in
/-- Behind the lambdas the parameter is free, after the one that only occurs in them. -/
theorem Expr.freeParameters_firstUse_redeclared :
    redeclared.freeParameters = [flagParam, outerParam] ∧
    outerParam ∈ redeclared.freeParameters ∧
    (redeclared.sites.find? (Site.isFreeOf outerParam.id)).map Site.param = some outerParam := by
  have hfree : redeclared.freeParameters = [flagParam, outerParam] := rfl
  have hmem : outerParam ∈ redeclared.freeParameters := by
    rw [hfree]
    exact List.mem_cons_of_mem _ (List.mem_cons_self ..)
  exact ⟨hfree, hmem, (Expr.freeParameters_firstUse redeclared).2.2.2.1 outerParam hmem⟩

end TypedQuery
