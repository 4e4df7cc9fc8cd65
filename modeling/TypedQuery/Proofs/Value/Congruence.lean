import TypedQuery.Proofs.Dict
import TypedQuery.Proofs.Eval.Locality
import TypedQuery.Proofs.Json.WrittenForm
import TypedQuery.Proofs.Value.Equality

/-!
# Equality and parts

Lists are equal where their items are.  Records are equal where their contents are the same, which is
finer than equality: an integer is not the same as the unsigned integer equal to it, nor the name of an
enumeration the same as its text.  Where values are of one variant throughout (`Value.isLike`) the two
come to one (`Value.same_of_equal` and `Value.equal_of_same`), but for a minus zero inside a document,
which is the same number as zero and is written otherwise.

That equal documents are the same is no matter of definition, since they are compared as texts: it
rests on `Json.text_injective`.
-/

namespace TypedQuery

theorem forall₂_imp_of_mem {α β : Type} {R S : α → β → Prop} {as : List α} {bs : List β}
    (hR : List.Forall₂ R as bs) (h : ∀ a ∈ as, ∀ b ∈ bs, R a b → S a b) : List.Forall₂ S as bs := by
  induction hR with
  | nil => exact .nil
  | cons hab _ ih =>
    refine .cons (h _ (List.mem_cons_self ..) _ (List.mem_cons_self ..) hab) (ih fun a ha b hb => ?_)
    exact h a (List.mem_cons_of_mem _ ha) b (List.mem_cons_of_mem _ hb)

/-! ## What is equal by the order -/

theorem Uuid.cmp_eq_eq_iff {u v : Uuid} : u.cmp v = .eq ↔ u = v := by
  obtain ⟨a⟩ := u
  obtain ⟨b⟩ := v
  change compare a.toNat b.toNat = .eq ↔ _
  rw [Nat.compare_eq_eq, BitVec.toNat_inj, Uuid.mk.injEq]

theorem Date.cmp_eq_eq_iff {d e : Date} : d.cmp e = .eq ↔ d = e := by
  obtain ⟨y, m, n, _⟩ := d
  obtain ⟨y', m', n', _⟩ := e
  simp only [Date.cmp, Ordering.then_eq_eq, Std.compare_eq_iff_eq, Date.mk.injEq]

theorem Timestamp.cmp_eq_eq_iff {t u : Timestamp} : t.cmp u = .eq ↔ t = u := by
  obtain ⟨d, m, n, _, _⟩ := t
  obtain ⟨d', m', n', _, _⟩ := u
  simp only [Timestamp.cmp, Ordering.then_eq_eq, Date.cmp_eq_eq_iff, Std.compare_eq_iff_eq,
    Timestamp.mk.injEq]

/-! ## Minus zero in documents -/

namespace Json

mutual

/-- Whether no number in the document is minus zero. -/
def isZeroPlain : Json → Bool
  | .number (.float x _) => decide (x ≠ -0)
  | .array items => isZeroPlainItems items
  | .object fields => isZeroPlainFields fields
  | _ => true

/-- Whether that is so of all items. -/
def isZeroPlainItems : List Json → Bool
  | [] => true
  | j :: rest => j.isZeroPlain && isZeroPlainItems rest

/-- Whether that is so of the contents of all fields. -/
def isZeroPlainFields : List (String × Json) → Bool
  | [] => true
  | (_, j) :: rest => j.isZeroPlain && isZeroPlainFields rest

end

theorem isZeroPlainItems_iff {items : List Json} :
    isZeroPlainItems items = true ↔ ∀ j ∈ items, j.isZeroPlain = true := by
  induction items with
  | nil => exact ⟨fun _ => nofun, fun _ => rfl⟩
  | cons j rest ih => rw [isZeroPlainItems, Bool.and_eq_true, ih, List.forall_mem_cons]

theorem isZeroPlainFields_iff {fields : List (String × Json)} :
    isZeroPlainFields fields = true ↔ ∀ f ∈ fields, f.2.isZeroPlain = true := by
  induction fields with
  | nil => exact ⟨fun _ => nofun, fun _ => rfl⟩
  | cons f rest ih => rw [isZeroPlainFields, Bool.and_eq_true, ih, List.forall_mem_cons]

/-- Without minus zero documents that are the same are one document. -/
theorem eq_of_same {j k : Json} (hj : j.isZeroPlain = true) (hk : k.isZeroPlain = true)
    (h : j.same k = true) : j = k := by
  induction j using Json.induct generalizing k with
  | null =>
    cases k with
    | null => rfl
    | _ => cases h
  | bool a =>
    cases k with
    | bool b => exact congrArg bool (beq_iff_eq.1 h)
    | _ => cases h
  | number m =>
    cases k with
    | number n =>
      cases m with
      | integer a _ =>
        cases n with
        | integer b _ =>
          obtain rfl : a = b := beq_iff_eq.1 h
          rfl
        | float => cases h
      | float x _ =>
        cases n with
        | integer => cases h
        | float y _ =>
          have hx : x ≠ -0 := of_decide_eq_true hj
          have hy : y ≠ -0 := of_decide_eq_true hk
          obtain ⟨-, -, rfl | ⟨-, hzero⟩ | ⟨hzero, -⟩⟩ := Float.beq_iff_ne_nan_and_eq.1 h
          · rfl
          · exact absurd hzero hy
          · exact absurd hzero hx
    | _ => cases h
  | string a =>
    cases k with
    | string b => exact congrArg string (beq_iff_eq.1 h)
    | _ => cases h
  | array as ih =>
    cases k with
    | array bs =>
      have has := isZeroPlainItems_iff.1 hj
      have hbs := isZeroPlainItems_iff.1 hk
      have hitems : List.Forall₂ Eq as bs :=
        forall₂_imp_of_mem (sameItems_iff.1 h) fun a ha b hb => ih a ha (has a ha) (hbs b hb)
      rw [List.forall₂_eq_eq_eq] at hitems
      exact congrArg array hitems
    | _ => cases h
  | object as ih =>
    cases k with
    | object bs =>
      have has := isZeroPlainFields_iff.1 hj
      have hbs := isZeroPlainFields_iff.1 hk
      have hfields : List.Forall₂ Eq as bs :=
        forall₂_imp_of_mem (sameFields_iff.1 h) fun a ha b hb hab =>
          Prod.ext hab.1 (ih a ha (has a ha) (hbs b hb) hab.2)
      rw [List.forall₂_eq_eq_eq] at hfields
      exact congrArg object hfields
    | _ => cases h

end Json

/-! ## Values of one variant throughout -/

namespace Value

mutual

/-- Whether two values are of one variant, and so are the values at one place in them; names are of one
enumeration. -/
def isLike : Value → Value → Bool
  | .int _, .int _ | .uint _, .uint _ | .float _, .float _ | .decimal _, .decimal _ => true
  | .string _, .string _ | .boolean _, .boolean _ | .json _, .json _ | .uuid _, .uuid _ => true
  | .date _, .date _ | .timestamp _, .timestamp _ | .stringArray _, .stringArray _ => true
  | .enum s _, .enum t _ => s == t
  | .list as, .list bs => isLikeItems as bs
  | .record as, .record bs => isLikeFields as bs
  | .null, .null => true
  | _, _ => false

/-- Whether that is so of the items, one by one. -/
def isLikeItems : List Value → List Value → Bool
  | [], [] => true
  | a :: as, b :: bs => isLike a b && isLikeItems as bs
  | _, _ => false

/-- Whether that is so of the contents of the fields, one by one. -/
def isLikeFields : List (String × Value) → List (String × Value) → Bool
  | [], [] => true
  | (_, a) :: as, (_, b) :: bs => isLike a b && isLikeFields as bs
  | _, _ => false

end

theorem isLikeItems_iff {as bs : List Value} :
    isLikeItems as bs = true ↔ List.Forall₂ (fun a b => a.isLike b = true) as bs := by
  induction as generalizing bs with
  | nil => cases bs <;> simp [isLikeItems]
  | cons a as ih => cases bs <;> simp [isLikeItems, ih]

theorem isLikeFields_iff {as bs : List (String × Value)} :
    isLikeFields as bs = true ↔ List.Forall₂ (fun a b => a.2.isLike b.2 = true) as bs := by
  induction as generalizing bs with
  | nil => cases bs <;> simp [isLikeFields]
  | cons a as ih => cases bs <;> simp [isLikeFields, ih]

/-- What is the same is of one variant throughout. -/
theorem isLike_of_same {v w : Value} (h : v.same w = true) : v.isLike w = true := by
  induction v using Value.induct generalizing w with
  | leaf v hleaf =>
    cases v with
    | list | record => cases hleaf
    | enum s a =>
      cases w with
      | enum t b => exact (Bool.and_eq_true_iff.1 h).1
      | _ => cases h
    | _ => cases w <;> first | rfl | cases h
  | list as ih =>
    cases w with
    | list bs =>
      exact isLikeItems_iff.2 (forall₂_imp_of_mem (sameItems_iff.1 h) fun a ha b _ => ih a ha)
    | _ => cases h
  | record as ih =>
    cases w with
    | record bs =>
      exact isLikeFields_iff.2 (forall₂_imp_of_mem (sameFields_iff.1 h) fun a ha b _ hab =>
        ih a ha hab.2)
    | _ => cases h

/-- Equal values of one variant throughout are the same. -/
theorem same_of_equal {v w : Value} (hfree : v.isFloatFree = true) (hlike : v.isLike w = true)
    (h : v.equal w = true) : v.same w = true := by
  induction v using Value.induct generalizing w with
  | leaf v hleaf =>
    cases v with
    | list | record => cases hleaf
    | float => cases hfree
    | int a =>
      cases w with
      | int b => exact beq_iff_eq.2 (Int64.toInt_inj.1 (equal_int_iff.1 h))
      | _ => cases hlike
    | uint a =>
      cases w with
      | uint b => exact beq_iff_eq.2 (UInt64.toNat_inj.1 (equal_uint_iff.1 h))
      | _ => cases hlike
    | decimal a =>
      cases w with
      | decimal b => exact h
      | _ => cases hlike
    | string a =>
      cases w with
      | string b => exact beq_iff_eq.2 (cmpText_eq_eq_iff.1 (Option.some.inj (beq_iff_eq.1 h)))
      | _ => cases hlike
    | boolean a =>
      cases w with
      | boolean b => cases a <;> cases b <;> first | rfl | cases h
      | _ => cases hlike
    | json a =>
      cases w with
      | json b =>
        obtain rfl := Json.text_injective (cmpText_eq_eq_iff.1 (Option.some.inj (beq_iff_eq.1 h)))
        exact a.same_self
      | _ => cases hlike
    | uuid a =>
      cases w with
      | uuid b => exact beq_iff_eq.2 (Uuid.cmp_eq_eq_iff.1 (Option.some.inj (beq_iff_eq.1 h)))
      | _ => cases hlike
    | date a =>
      cases w with
      | date b => exact beq_iff_eq.2 (Date.cmp_eq_eq_iff.1 (Option.some.inj (beq_iff_eq.1 h)))
      | _ => cases hlike
    | timestamp a =>
      cases w with
      | timestamp b =>
        exact beq_iff_eq.2 (Timestamp.cmp_eq_eq_iff.1 (Option.some.inj (beq_iff_eq.1 h)))
      | _ => cases hlike
    | enum s a =>
      cases w with
      | enum t b =>
        have hname := cmpText_eq_eq_iff.1 (Option.some.inj (beq_iff_eq.1 h))
        exact Bool.and_eq_true_iff.2 ⟨hlike, beq_iff_eq.2 hname⟩
      | _ => cases hlike
    | stringArray as =>
      cases w with
      | stringArray bs => exact h
      | _ => cases hlike
    | null =>
      cases w with
      | null => rfl
      | _ => cases hlike
  | list as ih =>
    cases w with
    | list bs =>
      have has := isFloatFreeItems_iff.1 hfree
      have hboth := List.Forall₂.mp (fun _ _ => And.intro) (isLikeItems_iff.1 hlike)
        (equalItems_iff.1 h)
      exact sameItems_iff.2 (forall₂_imp_of_mem hboth fun a ha b _ hab =>
        ih a ha (has a ha) hab.1 hab.2)
    | _ => cases hlike
  | record as ih =>
    cases w with
    | record bs => exact h
    | _ => cases hlike

mutual

/-- Whether no document in the value has a minus zero. -/
def isZeroPlain : Value → Bool
  | .json j => j.isZeroPlain
  | .list items => isZeroPlainItems items
  | .record fields => isZeroPlainFields fields
  | _ => true

/-- Whether that is so of all items. -/
def isZeroPlainItems : List Value → Bool
  | [] => true
  | v :: rest => v.isZeroPlain && isZeroPlainItems rest

/-- Whether that is so of the contents of all fields. -/
def isZeroPlainFields : List (String × Value) → Bool
  | [] => true
  | (_, v) :: rest => v.isZeroPlain && isZeroPlainFields rest

end

theorem isZeroPlainItems_iff {items : List Value} :
    isZeroPlainItems items = true ↔ ∀ v ∈ items, v.isZeroPlain = true := by
  induction items with
  | nil => exact ⟨fun _ => nofun, fun _ => rfl⟩
  | cons v rest ih => rw [isZeroPlainItems, Bool.and_eq_true, ih, List.forall_mem_cons]

theorem isZeroPlainFields_iff {fields : List (String × Value)} :
    isZeroPlainFields fields = true ↔ ∀ f ∈ fields, f.2.isZeroPlain = true := by
  induction fields with
  | nil => exact ⟨fun _ => nofun, fun _ => rfl⟩
  | cons f rest ih => rw [isZeroPlainFields, Bool.and_eq_true, ih, List.forall_mem_cons]

/-- Values that are the same are equal, without minus zero in their documents. -/
theorem equal_of_same {v w : Value} (hfree : v.isFloatFree = true) (hv : v.isZeroPlain = true)
    (hw : w.isZeroPlain = true) (h : v.same w = true) : v.equal w = true := by
  induction v using Value.induct generalizing w with
  | leaf v hleaf =>
    cases hplain : w.isPlain with
    | true =>
      obtain rfl := (same_iff_eq hplain).1 h
      exact equal_self hfree
    | false =>
      cases v with
      | list | record => cases hleaf
      | float => cases hfree
      | decimal a =>
        cases w with
        | decimal b => exact h
        | _ => cases h
      | json a =>
        cases w with
        | json b =>
          obtain rfl := Json.eq_of_same hv hw h
          exact equal_self hfree
        | _ => cases h
      | _ =>
        cases w with
        | float | decimal | json | list | record => cases h
        | _ => cases hplain
  | list as ih =>
    cases w with
    | list bs =>
      have hfrees := isFloatFreeItems_iff.1 hfree
      have has := isZeroPlainItems_iff.1 hv
      have hbs := isZeroPlainItems_iff.1 hw
      exact equalItems_iff.2 (forall₂_imp_of_mem (sameItems_iff.1 h) fun a ha b hb =>
        ih a ha (hfrees a ha) (has a ha) (hbs b hb))
    | _ => cases h
  | record as ih =>
    cases w with
    | record bs => exact h
    | _ => cases h

/-- What makes two values equal just if they are the same. -/
structure Alike (v w : Value) : Prop where
  isFloatFree : v.isFloatFree = true
  isLike : v.isLike w = true
  isZeroPlain : v.isZeroPlain = true ∧ w.isZeroPlain = true

theorem Alike.same_iff_equal {v w : Value} (h : v.Alike w) : v.same w = true ↔ v.equal w = true :=
  ⟨equal_of_same h.isFloatFree h.isZeroPlain.1 h.isZeroPlain.2,
    same_of_equal h.isFloatFree h.isLike⟩

/-! ## Records -/

/-- Records are equal where their contents under each name are equal and of one variant. -/
theorem equal_record {as bs : List (String × Value)} (hfree : ∀ a ∈ as, a.2.isFloatFree = true)
    (h : List.Forall₂ (fun a b => a.1 = b.1 ∧ a.2.equal b.2 = true ∧ a.2.isLike b.2 = true) as bs) :
    (Value.record as).equal (.record bs) = true :=
  sameFields_iff.2 (forall₂_imp_of_mem h fun a ha _ _ hab =>
    ⟨hab.1, same_of_equal (hfree a ha) hab.2.2 hab.2.1⟩)

/-- The contents of equal records are equal, without minus zero in their documents, and of one
variant. -/
theorem forall₂_of_equal_record {as bs : List (String × Value)}
    (hfree : ∀ a ∈ as, a.2.isFloatFree = true) (has : ∀ a ∈ as, a.2.isZeroPlain = true)
    (hbs : ∀ b ∈ bs, b.2.isZeroPlain = true) (h : (Value.record as).equal (.record bs) = true) :
    List.Forall₂ (fun a b => a.1 = b.1 ∧ a.2.equal b.2 = true ∧ a.2.isLike b.2 = true) as bs :=
  forall₂_imp_of_mem (sameFields_iff.1 h) fun a ha b hb hab =>
    ⟨hab.1, equal_of_same (hfree a ha) (has a ha) (hbs b hb) hab.2, isLike_of_same hab.2⟩

/-- Null equals nothing but null in any case. -/
theorem equalOrNull_eq_equal (v w : Value) : v.equalOrNull w = v.equal w := by
  unfold equalOrNull
  cases v with
  | null => cases w <;> rfl
  | _ =>
    cases w with
    | null => rfl
    | _ => rfl

end Value

/-! ## Projected records -/

/-- Fields of two records under common names. -/
def leftFields {α : Type} (fields : List (String × α × α)) : List (String × α) :=
  fields.map fun f => (f.1, f.2.1)

/-- The fields of the other record. -/
def rightFields {α : Type} (fields : List (String × α × α)) : List (String × α) :=
  fields.map fun f => (f.1, f.2.2)

namespace Value

/-- Records of alike contents under distinct common names are equal just if the contents are. -/
theorem equal_ofFields_iff {es : List (String × Value × Value)} (hnames : (es.map Prod.fst).Nodup)
    (halike : ∀ e ∈ es, e.2.1.Alike e.2.2) :
    (ofFields (leftFields es)).equal (ofFields (rightFields es)) = true ↔
      ∀ e ∈ es, e.2.1.equal e.2.2 = true := by
  have hleft : Dict.ofList (leftFields es) = leftFields (Dict.ofList es) :=
    (Dict.map_ofList Prod.fst es).symm
  have hright : Dict.ofList (rightFields es) = rightFields (Dict.ofList es) :=
    (Dict.map_ofList Prod.snd es).symm
  change sameFields (Dict.ofList (leftFields es)) (Dict.ofList (rightFields es)) = true ↔ _
  rw [hleft, hright, sameFields_iff, leftFields, rightFields, List.forall₂_map_left_iff,
    List.forall₂_map_right_iff, List.forall₂_same]
  refine forall_congr' fun e => ?_
  rw [Dict.mem_ofList_iff hnames]
  refine forall_congr' fun he => ?_
  rw [← (halike e he).same_iff_equal]
  exact and_iff_right rfl

end Value

namespace Expr

variable {scope : Scope}

theorem eval_equal {l r : Expr} {v w : Value} (hl : l.eval scope = .ok v)
    (hr : r.eval scope = .ok w) :
    (Expr.binary .equal l r).eval scope = .ok (.boolean (v.equal w)) := by
  rw [eval_binary_of_not_logical (by decide), hl, hr, ← Value.equalOrNull_eq_equal]
  rfl

theorem eval_new_of_evalFields {type : Option String} {fields : List (String × Expr)}
    {values : List (String × Value)} (h : evalFields scope fields = .ok values) :
    (Expr.new type fields).eval scope = .ok (.ofFields values) := by
  rw [eval_new, h]
  rfl

theorem evalFields_map {α : Type} {fields : List α} {name : α → String} {e : α → Expr}
    {v : α → Value} (h : ∀ f ∈ fields, (e f).eval scope = .ok (v f)) :
    evalFields scope (fields.map fun f => (name f, e f)) = .ok (fields.map fun f => (name f, v f)) := by
  induction fields with
  | nil => rfl
  | cons f rest ih =>
    rw [List.map_cons, evalFields_cons, h f (List.mem_cons_self ..),
      ih fun g hg => h g (List.mem_cons_of_mem _ hg)]
    rfl

/-- Between two projected records `==` says what it says between all of their members. -/
theorem exists_eval_equal_new (t s : Option String) {fields : List (String × Expr × Expr)}
    (hnames : (fields.map Prod.fst).Nodup)
    (h : ∀ f ∈ fields, ∃ v w, f.2.1.eval scope = .ok v ∧ f.2.2.eval scope = .ok w ∧ v.Alike w) :
    ∃ b, (Expr.binary .equal (.new t (leftFields fields)) (.new s (rightFields fields))).eval scope =
        .ok (.boolean b) ∧
      (b = true ↔
        ∀ f ∈ fields, (Expr.binary .equal f.2.1 f.2.2).eval scope = .ok (.boolean true)) := by
  choose! v w hv hw halike using h
  let es := fields.map fun f => (f.1, v f, w f)
  have hleft : evalFields scope (leftFields fields) = .ok (leftFields es) := by
    rw [leftFields, evalFields_map hv, leftFields, List.map_map]
    rfl
  have hright : evalFields scope (rightFields fields) = .ok (rightFields es) := by
    rw [rightFields, evalFields_map hw, rightFields, List.map_map]
    rfl
  have hkeys : (es.map Prod.fst).Nodup := by
    rw [List.map_map]
    exact hnames
  refine ⟨_, eval_equal (eval_new_of_evalFields hleft) (eval_new_of_evalFields hright), ?_⟩
  rw [Value.equal_ofFields_iff hkeys (List.forall_mem_map.2 halike), List.forall_mem_map]
  refine forall₂_congr fun f hf => ?_
  rw [eval_equal (hv f hf) (hw f hf)]
  simp

end Expr

/-! ## The theorem -/

/-- What equality has to do with the parts of values, and with the parts of what is projected in a
scope. -/
structure Value.GoesByParts (scope : Scope) : Prop where
  /-- Lists are equal just if they are equal item by item. -/
  list : ∀ as bs : List Value,
    (Value.list as).equal (.list bs) = true ↔ List.Forall₂ (fun a b => a.equal b = true) as bs
  /-- Records are equal if they are equal, and of one variant, name by name. -/
  record : ∀ as bs : List (String × Value), (∀ a ∈ as, a.2.isFloatFree = true) →
    List.Forall₂ (fun a b => a.1 = b.1 ∧ a.2.equal b.2 = true ∧ a.2.isLike b.2 = true) as bs →
    (Value.record as).equal (.record bs) = true
  /-- Equal records are equal, and of one variant, name by name, unless there is a minus zero in a
  document. -/
  members : ∀ as bs : List (String × Value), (∀ a ∈ as, a.2.isFloatFree = true) →
    (∀ a ∈ as, a.2.isZeroPlain = true) → (∀ b ∈ bs, b.2.isZeroPlain = true) →
    (Value.record as).equal (.record bs) = true →
    List.Forall₂ (fun a b => a.1 = b.1 ∧ a.2.equal b.2 = true ∧ a.2.isLike b.2 = true) as bs
  /-- Between two projected records `==` gives a truth value, and it is true just if `==` gives true
  between all members under common names. -/
  operator : ∀ (t s : Option String) (fields : List (String × Expr × Expr)),
    (fields.map Prod.fst).Nodup →
    (∀ f ∈ fields, ∃ v w, f.2.1.eval scope = .ok v ∧ f.2.2.eval scope = .ok w ∧ v.Alike w) →
    ∃ b, (Expr.binary .equal (.new t (leftFields fields)) (.new s (rightFields fields))).eval scope =
        .ok (.boolean b) ∧
      (b = true ↔ ∀ f ∈ fields, (Expr.binary .equal f.2.1 f.2.2).eval scope = .ok (.boolean true))

/-- Equality goes by the parts of values, in records by those of one variant. -/
theorem Value.goesByParts (scope : Scope) : Value.GoesByParts scope where
  list _ _ := equalItems_iff
  record _ _ := equal_record
  members _ _ := forall₂_of_equal_record
  operator t s _ := Expr.exists_eval_equal_new t s

namespace Sample

/-- A first and a second person, of one age and of different names. -/
def adaBesideGrace : List (String × Expr × Expr) :=
  [("age", .ofValue (.int 36), .ofValue (.int 36)),
    ("name", .ofValue (.string "Ada"), .ofValue (.string "Grace"))]

/-- An offer with its prices in a list and its size in a record. -/
def offer : List (String × Value) :=
  [("prices", .list [.decimal ⟨10, 1⟩, .null]), ("size", .record [("depth", .decimal ⟨5, 0⟩)])]

/-- The same offer, with one more place in each number. -/
def preciseOffer : List (String × Value) :=
  [("prices", .list [.decimal ⟨100, 2⟩, .null]), ("size", .record [("depth", .decimal ⟨50, 1⟩)])]

end Sample

open Sample in
/-- Records of two people are unequal by their names alone.  Two offers are equal, since their prices
are and their sizes, and so are their lists of prices; in a list they may stand beside numbers of two
variants. -/
theorem Value.goesByParts_adaBesideGrace :
    (Expr.binary .equal (.ofValue (.int 36)) (.ofValue (.int 36))).eval [] =
      .ok (.boolean true) ∧
    (Expr.binary .equal (.new none (leftFields adaBesideGrace))
      (.new none (rightFields adaBesideGrace))).eval [] = .ok (.boolean false) ∧
    (∀ a ∈ offer, a.2.isFloatFree = true) ∧
    (Value.record offer).equal (.record preciseOffer) = true ∧
    List.Forall₂ (fun a b => a.1 = b.1 ∧ a.2.equal b.2 = true ∧ a.2.isLike b.2 = true)
      offer preciseOffer ∧
    (Value.list [.record offer, .int 1]).equal (.list [.record preciseOffer, .uint 1]) = true := by
  have hparts := Value.goesByParts []
  have halike : ∀ f ∈ adaBesideGrace, ∃ v w, f.2.1.eval [] = .ok v ∧ f.2.2.eval [] = .ok w ∧
      v.Alike w := by
    simp only [adaBesideGrace, List.forall_mem_cons]
    exact ⟨⟨.int 36, .int 36, rfl, rfl, rfl, rfl, rfl, rfl⟩,
      ⟨.string "Ada", .string "Grace", rfl, rfl, rfl, rfl, rfl, rfl⟩, nofun⟩
  have hnames : (Expr.binary .equal (.ofValue (.string "Ada")) (.ofValue (.string "Grace"))).eval [] =
      .ok (.boolean false) := rfl
  obtain ⟨b, hb, hiff⟩ := hparts.operator none none adaBesideGrace (by decide) halike
  have hpeople : (Expr.binary .equal (.new none (leftFields adaBesideGrace))
      (.new none (rightFields adaBesideGrace))).eval [] = .ok (.boolean false) := by
    cases b with
    | false => exact hb
    | true =>
      have htrue := hiff.1 rfl _ (List.mem_cons_of_mem _ (List.mem_cons_self ..))
      rw [hnames] at htrue
      cases htrue
  have hfree : ∀ a ∈ offer, a.2.isFloatFree = true := by
    simp only [offer, List.forall_mem_cons]
    exact ⟨rfl, rfl, nofun⟩
  have hprices : (Value.list [.decimal ⟨10, 1⟩, .null]).equal (.list [.decimal ⟨100, 2⟩, .null]) =
      true := (hparts.list _ _).2 (.cons rfl (.cons rfl .nil))
  have hsize : (Value.record [("depth", .decimal ⟨5, 0⟩)]).equal
      (.record [("depth", .decimal ⟨50, 1⟩)]) = true := by
    refine hparts.record _ _ ?_ (.cons ⟨rfl, rfl, rfl⟩ .nil)
    simp only [List.forall_mem_cons]
    exact ⟨rfl, nofun⟩
  have hoffers : (Value.record offer).equal (.record preciseOffer) = true :=
    hparts.record _ _ hfree (.cons ⟨rfl, hprices, rfl⟩ (.cons ⟨rfl, hsize, rfl⟩ .nil))
  have hzero : (∀ a ∈ offer, a.2.isZeroPlain = true) ∧
      ∀ b ∈ preciseOffer, b.2.isZeroPlain = true := by
    simp only [offer, preciseOffer, List.forall_mem_cons]
    exact ⟨⟨rfl, rfl, nofun⟩, rfl, rfl, nofun⟩
  have hmembers := hparts.members offer preciseOffer hfree hzero.1 hzero.2 hoffers
  exact ⟨rfl, hpeople, hfree, hoffers, hmembers,
    (hparts.list _ _).2 (.cons hoffers (.cons rfl .nil))⟩

/-- Records with an integer and the equal unsigned one, and with a name and its text, are not equal. -/
theorem Value.equal_record_mixed :
    (Value.int 1).equal (.uint 1) = true ∧
    (Value.record [("age", .int 1)]).equal (.record [("age", .uint 1)]) = false ∧
    (Value.list [.int 1]).equal (.list [.uint 1]) = true ∧
    (Value.enum "Colour" "red").equal (.string "red") = true ∧
    (Value.record [("colour", .enum "Colour" "red")]).equal
      (.record [("colour", .string "red")]) = false := by
  decide

end TypedQuery
