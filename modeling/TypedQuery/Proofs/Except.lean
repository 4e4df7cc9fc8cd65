/-!
# Computations that may fail

How a sequence of steps succeeds, and how a pure step at its end moves inward.  Evaluation, binding
of arguments and compilation are taken apart with these.
-/

namespace TypedQuery

variable {ε α β γ : Type}

@[simp] theorem ok_bind (a : α) (f : α → Except ε β) : (Except.ok a >>= f) = f a := rfl

@[simp] theorem error_bind (e : ε) (f : α → Except ε β) :
    ((Except.error e : Except ε α) >>= f) = .error e := rfl

@[simp] theorem map_ok (f : α → β) (a : α) : (Except.ok a : Except ε α).map f = .ok (f a) := rfl

@[simp] theorem map_error (f : α → β) (e : ε) :
    (Except.error e : Except ε α).map f = .error e := rfl

/-- Two steps succeed if the first does and then the second. -/
theorem bind_eq_ok_iff {x : Except ε α} {f : α → Except ε β} {b : β} :
    x >>= f = .ok b ↔ ∃ a, x = .ok a ∧ f a = .ok b := by
  cases x with
  | error e => simp
  | ok a => simp

theorem map_eq_ok_iff {x : Except ε α} {f : α → β} {b : β} :
    x.map f = .ok b ↔ ∃ a, x = .ok a ∧ f a = b := by
  cases x with
  | error e => simp
  | ok a => simp

/-- Two steps fail if the first does, or if it succeeds and the second fails. -/
theorem bind_eq_error_iff {x : Except ε α} {f : α → Except ε β} {e : ε} :
    x >>= f = .error e ↔ x = .error e ∨ ∃ a, x = .ok a ∧ f a = .error e := by
  cases x with
  | error e => simp
  | ok a => simp

theorem map_eq_error_iff {x : Except ε α} {f : α → β} {e : ε} :
    x.map f = .error e ↔ x = .error e := by
  cases x with
  | error e => simp
  | ok a => simp

/-- A failure in other words is no success. -/
theorem mapError_eq_ok_iff {δ : Type} {x : Except ε α} {f : ε → δ} {a : α} :
    x.mapError f = .ok a ↔ x = .ok a := by
  cases x with
  | error e => exact ⟨nofun, nofun⟩
  | ok b => exact ⟨fun h => congrArg _ (Except.ok.inj h), fun h => congrArg _ (Except.ok.inj h)⟩

theorem map_eq_bind (x : Except ε α) (f : α → β) :
    x.map f = x >>= fun a => pure (f a) := by
  cases x <;> rfl

theorem map_bind (x : Except ε α) (f : α → Except ε β) (g : β → γ) :
    (x >>= f).map g = x >>= fun a => (f a).map g := by
  cases x <;> rfl

theorem bind_map (x : Except ε α) (f : α → β) (g : β → Except ε γ) :
    x.map f >>= g = x >>= fun a => g (f a) := by
  cases x <;> rfl

/-- What holds at the start and is kept by each step holds at the end of a loop that succeeds. -/
theorem foldlM_invariant {P : β → Prop} {step : β → α → Except ε β} {l : List α} {b b' : β}
    (hstep : ∀ b, ∀ a ∈ l, ∀ b', P b → step b a = .ok b' → P b') (hb : P b)
    (h : l.foldlM step b = .ok b') : P b' := by
  induction l generalizing b with
  | nil => exact Except.ok.inj h ▸ hb
  | cons a l ih =>
    rw [List.foldlM_cons, bind_eq_ok_iff] at h
    obtain ⟨c, hc, h⟩ := h
    refine ih (fun b d hd => hstep b d (List.mem_cons_of_mem _ hd)) ?_ h
    exact hstep b a (List.mem_cons_self ..) c hb hc

/-- A list whose members are all computed is the image of a function. -/
theorem exists_map_of_mapM [Inhabited β] {f : α → Except ε β} {l : List α} {bs : List β}
    (h : l.mapM f = .ok bs) : ∃ g : α → β, (∀ a ∈ l, f a = .ok (g a)) ∧ bs = l.map g := by
  refine ⟨fun a => (f a).toOption.getD default, ?_⟩
  induction l generalizing bs with
  | nil => exact ⟨nofun, (Except.ok.inj h).symm⟩
  | cons a l ih =>
    rw [List.mapM_cons, bind_eq_ok_iff] at h
    obtain ⟨b, hb, h⟩ := h
    obtain ⟨cs, hcs, h⟩ := bind_eq_ok_iff.1 h
    obtain ⟨hl, rfl⟩ := ih hcs
    have ha : (f a).toOption.getD default = b := by
      rw [hb]
      rfl
    refine ⟨List.forall_mem_cons.2 ⟨?_, hl⟩, ?_⟩
    · exact hb.trans (congrArg Except.ok ha.symm)
    · rw [List.map_cons, ha]
      exact (Except.ok.inj h).symm

/-- A list cannot be computed if one of its members cannot. -/
theorem exists_of_mapM_eq_error {f : α → Except ε β} {l : List α} {e : ε}
    (h : l.mapM f = .error e) : ∃ a ∈ l, f a = .error e := by
  induction l with
  | nil => cases h
  | cons a l ih =>
    rw [List.mapM_cons, bind_eq_error_iff] at h
    rcases h with h | ⟨b, -, h⟩
    · exact ⟨a, List.mem_cons_self .., h⟩
    · rcases bind_eq_error_iff.1 h with h | ⟨bs, -, h⟩
      · obtain ⟨c, hc, h⟩ := ih h
        exact ⟨c, List.mem_cons_of_mem _ hc, h⟩
      · cases h

theorem exists_mapM_eq_ok {f : α → Except ε β} {l : List α} (h : ∀ a ∈ l, ∃ b, f a = .ok b) :
    ∃ bs, l.mapM f = .ok bs := by
  induction l with
  | nil => exact ⟨[], rfl⟩
  | cons a l ih =>
    obtain ⟨b, hb⟩ := h a (List.mem_cons_self ..)
    obtain ⟨bs, hbs⟩ := ih fun c hc => h c (List.mem_cons_of_mem _ hc)
    refine ⟨b :: bs, ?_⟩
    rw [List.mapM_cons, hb, ok_bind, hbs, ok_bind]
    rfl

theorem exists_mapM_eq_ok_iff {f : α → Except ε β} {l : List α} :
    (∃ bs, l.mapM f = .ok bs) ↔ ∀ a ∈ l, ∃ b, f a = .ok b := by
  refine ⟨fun h => ?_, exists_mapM_eq_ok⟩
  obtain ⟨bs, hbs⟩ := h
  induction l generalizing bs with
  | nil => exact nofun
  | cons a l ih =>
    rw [List.mapM_cons, bind_eq_ok_iff] at hbs
    obtain ⟨b, hb, hbs⟩ := hbs
    obtain ⟨cs, hcs, -⟩ := bind_eq_ok_iff.1 hbs
    exact List.forall_mem_cons.2 ⟨⟨b, hb⟩, ih cs hcs⟩

theorem mapM_eq_ok_map {f : α → Except ε β} {g : α → β} {l : List α}
    (h : ∀ a ∈ l, f a = .ok (g a)) : l.mapM f = .ok (l.map g) := by
  induction l with
  | nil => rfl
  | cons a l ih =>
    rw [List.mapM_cons, h a (List.mem_cons_self ..), ok_bind,
      ih fun b hb => h b (List.mem_cons_of_mem _ hb), ok_bind]
    rfl

/-- The first member that cannot be computed is why the list cannot be. -/
theorem mapM_eq_error {f : α → Except ε β} {before after : List α} {a : α} {e : ε}
    (hbefore : ∀ b ∈ before, ∃ c, f b = .ok c) (ha : f a = .error e) :
    (before ++ a :: after).mapM f = .error e := by
  obtain ⟨cs, hcs⟩ := exists_mapM_eq_ok hbefore
  rw [List.mapM_append, hcs, ok_bind, List.mapM_cons, ha]
  rfl

/-- A loop whose steps succeed whatever came before them succeeds if each of them does. -/
theorem exists_foldlM_eq_ok_iff {step : β → α → Except ε β} {P : α → Prop} {l : List α}
    (hstep : ∀ b a, (∃ b', step b a = .ok b') ↔ P a) (b : β) :
    (∃ b', l.foldlM step b = .ok b') ↔ ∀ a ∈ l, P a := by
  induction l generalizing b with
  | nil => exact ⟨fun _ => nofun, fun _ => ⟨b, rfl⟩⟩
  | cons a l ih =>
    rw [List.foldlM_cons, List.forall_mem_cons, ← hstep b a]
    cases hb : step b a with
    | error e => simp
    | ok b' => simpa using ih b'

/-- Where the first computation succeeds the second one does, with the same result. -/
def Extends (x y : Except ε α) : Prop := ∀ a, x = .ok a → y = .ok a

theorem Extends.refl (x : Except ε α) : Extends x x := fun _ h => h

theorem Extends.bind {x y : Except ε α} {f g : α → Except ε β} (h : Extends x y)
    (hf : ∀ a, Extends (f a) (g a)) : Extends (x >>= f) (y >>= g) := by
  intro b hb
  obtain ⟨a, ha, hb⟩ := bind_eq_ok_iff.1 hb
  rw [h a ha, ok_bind, hf a b hb]

/-- Outcomes that are alike: one failure, or results that are related. -/
inductive Alike (R : α → β → Prop) : Except ε α → Except ε β → Prop where
  | error (e : ε) : Alike R (.error e) (.error e)
  | ok {a : α} {b : β} (h : R a b) : Alike R (.ok a) (.ok b)

/-- Loops whose steps are alike from related states come out alike. -/
theorem foldlM_alike {R : β → γ → Prop} {step : β → α → Except ε β} {step' : γ → α → Except ε γ}
    {l : List α} {b : β} {c : γ} (hb : R b c)
    (hstep : ∀ a ∈ l, ∀ b c, R b c → Alike R (step b a) (step' c a)) :
    Alike R (l.foldlM step b) (l.foldlM step' c) := by
  induction l generalizing b c with
  | nil => exact .ok hb
  | cons a l ih =>
    rw [List.foldlM_cons, List.foldlM_cons]
    have hfirst := hstep a (List.mem_cons_self ..) b c hb
    generalize step b a = x at hfirst
    generalize step' c a = y at hfirst
    cases hfirst with
    | error e => exact .error e
    | ok hb => exact ih hb fun a ha => hstep a (List.mem_cons_of_mem _ ha)

theorem exists_anyM_eq_ok {p : α → Except ε Bool} {l : List α} (h : ∀ a ∈ l, ∃ b, p a = .ok b) :
    ∃ b, l.anyM p = .ok b := by
  induction l with
  | nil => exact ⟨false, rfl⟩
  | cons a l ih =>
    obtain ⟨b, hb⟩ := h a (List.mem_cons_self ..)
    rw [List.anyM_cons, hb, ok_bind]
    cases b with
    | true => exact ⟨true, rfl⟩
    | false => exact ih fun c hc => h c (List.mem_cons_of_mem _ hc)

theorem exists_allM_eq_ok {p : α → Except ε Bool} {l : List α} (h : ∀ a ∈ l, ∃ b, p a = .ok b) :
    ∃ b, l.allM p = .ok b := by
  induction l with
  | nil => exact ⟨true, rfl⟩
  | cons a l ih =>
    obtain ⟨b, hb⟩ := h a (List.mem_cons_self ..)
    rw [List.allM_cons, hb, ok_bind]
    cases b with
    | true => exact ih fun c hc => h c (List.mem_cons_of_mem _ hc)
    | false => exact ⟨false, rfl⟩

end TypedQuery
