import Mathlib.Data.List.Forall2

/-!
# Outcomes

What succeeds in steps has succeeded in each of them, with and without a state
that the steps change.
-/

namespace MessageForge

variable {ε ε' α β : Type}

theorem bind_eq_ok_iff {first : Except ε α} {next : α → Except ε β} {value : β} :
    first >>= next = .ok value ↔ ∃ a, first = .ok a ∧ next a = .ok value := by
  cases first with
  | error fault => exact ⟨fun h => (nomatch h), fun ⟨_, h, _⟩ => (nomatch h)⟩
  | ok a => exact ⟨fun h => ⟨a, rfl, h⟩, fun ⟨_, h, hnext⟩ => by cases h; exact hnext⟩

theorem bind_eq_error_iff {first : Except ε α} {next : α → Except ε β} {fault : ε} :
    first >>= next = .error fault ↔
      first = .error fault ∨ ∃ a, first = .ok a ∧ next a = .error fault := by
  cases first with
  | error early =>
      refine ⟨fun h => .inl (congrArg _ (Except.error.inj h)), ?_⟩
      rintro (h | ⟨a, h, -⟩)
      · exact congrArg _ (Except.error.inj h)
      · cases h
  | ok a =>
      refine ⟨fun h => .inr ⟨a, rfl, h⟩, ?_⟩
      rintro (h | ⟨_, h, hnext⟩)
      · cases h
      · cases h
        exact hnext

theorem ok_bind (a : α) (next : α → Except ε β) : (Except.ok a : Except ε α) >>= next = next a := rfl

theorem error_bind (fault : ε) (next : α → Except ε β) :
    (Except.error fault : Except ε α) >>= next = .error fault := rfl

theorem mapError_eq_ok_iff {f : ε → ε'} {result : Except ε α} {value : α} :
    result.mapError f = .ok value ↔ result = .ok value := by
  cases result with
  | error fault => exact ⟨fun h => (nomatch h), fun h => (nomatch h)⟩
  | ok a => exact ⟨fun h => congrArg _ (Except.ok.inj h), fun h => congrArg _ (Except.ok.inj h)⟩

theorem mapError_eq_error_iff {f : ε → ε'} {result : Except ε α} {fault : ε'} :
    result.mapError f = .error fault ↔ ∃ early, result = .error early ∧ f early = fault := by
  cases result with
  | error early =>
      refine ⟨fun h => ⟨early, rfl, Except.error.inj h⟩, ?_⟩
      rintro ⟨_, h, rfl⟩
      cases h
      rfl
  | ok a => exact ⟨fun h => (nomatch h), fun ⟨_, h, _⟩ => (nomatch h)⟩

/-- Every result of a traversal is the result of one of its steps. -/
theorem mem_of_mapM_eq_ok {f : α → Except ε β} : ∀ {items : List α} {results : List β},
    items.mapM f = .ok results → ∀ result ∈ results, ∃ item ∈ items, f item = .ok result
  | [], results, h, result, hresult => by
      cases h
      cases hresult
  | item :: rest, results, h, result, hresult => by
      rw [List.mapM_cons] at h
      obtain ⟨first, hfirst, h⟩ := bind_eq_ok_iff.mp h
      obtain ⟨others, hothers, h⟩ := bind_eq_ok_iff.mp h
      cases h
      rcases List.mem_cons.mp hresult with rfl | hmem
      · exact ⟨item, List.mem_cons_self .., hfirst⟩
      · obtain ⟨other, hother, hresult⟩ := mem_of_mapM_eq_ok hothers result hmem
        exact ⟨other, List.mem_cons_of_mem _ hother, hresult⟩

/-- Every step of a traversal that goes through has a result among its results. -/
theorem exists_mem_of_mapM_eq_ok {f : α → Except ε β} : ∀ {items : List α} {results : List β},
    items.mapM f = .ok results → ∀ item ∈ items, ∃ result ∈ results, f item = .ok result
  | [], _, _, item, hitem => absurd hitem List.not_mem_nil
  | first :: rest, results, h, item, hitem => by
      rw [List.mapM_cons] at h
      obtain ⟨result, hresult, h⟩ := bind_eq_ok_iff.mp h
      obtain ⟨others, hothers, h⟩ := bind_eq_ok_iff.mp h
      cases h
      rcases List.mem_cons.mp hitem with rfl | hmem
      · exact ⟨result, List.mem_cons_self .., hresult⟩
      · obtain ⟨other, hother, heq⟩ := exists_mem_of_mapM_eq_ok hothers item hmem
        exact ⟨other, List.mem_cons_of_mem _ hother, heq⟩

theorem exists_mapM_eq_ok {f : α → Except ε β} : ∀ {items : List α},
    (∀ item ∈ items, ∃ result, f item = .ok result) → ∃ results, items.mapM f = .ok results
  | [], _ => ⟨[], rfl⟩
  | first :: rest, h => by
      obtain ⟨result, hresult⟩ := h first (List.mem_cons_self ..)
      obtain ⟨others, hothers⟩ := exists_mapM_eq_ok fun item hitem =>
        h item (List.mem_cons_of_mem _ hitem)
      exact ⟨result :: others, by rw [List.mapM_cons, hresult, ok_bind, hothers]; rfl⟩

/-- A traversal fails with its first step that fails. -/
theorem mapM_eq_error {f : α → Except ε β} {item : α} {after : List α} {fault : ε}
    (hitem : f item = .error fault) : ∀ {before : List α},
      (∀ other ∈ before, ∃ result, f other = .ok result) →
        (before ++ item :: after).mapM f = .error fault
  | [], _ => by rw [List.nil_append, List.mapM_cons, hitem, error_bind]
  | first :: rest, h => by
      obtain ⟨result, hresult⟩ := h first (List.mem_cons_self ..)
      rw [List.cons_append, List.mapM_cons, hresult, ok_bind,
        mapM_eq_error hitem fun other hother => h other (List.mem_cons_of_mem _ hother), error_bind]

theorem exists_of_mapM_eq_error {f : α → Except ε β} {fault : ε} : ∀ {items : List α},
    items.mapM f = .error fault → ∃ before item after, items = before ++ item :: after ∧
      (∀ other ∈ before, ∃ result, f other = .ok result) ∧ f item = .error fault
  | [], h => nomatch h
  | first :: rest, h => by
      rw [List.mapM_cons] at h
      rcases bind_eq_error_iff.mp h with hfirst | ⟨result, hresult, h⟩
      · exact ⟨[], first, rest, rfl, List.forall_mem_nil _, hfirst⟩
      · rcases bind_eq_error_iff.mp h with hrest | ⟨others, -, h⟩
        · obtain ⟨before, item, after, rfl, hbefore, hitem⟩ := exists_of_mapM_eq_error hrest
          exact ⟨first :: before, item, after, rfl,
            List.forall_mem_cons.mpr ⟨⟨result, hresult⟩, hbefore⟩, hitem⟩
        · cases h

/-- What is gathered by a traversal is gathered by one of its steps. -/
theorem mem_flatten_of_mapM_eq_ok {f : α → Except ε (List β)} {items : List α}
    {groups : List (List β)} (h : items.mapM f = .ok groups) {result : β} :
    result ∈ groups.flatten ↔ ∃ item ∈ items, ∃ group, f item = .ok group ∧ result ∈ group := by
  rw [List.mem_flatten]
  constructor
  · rintro ⟨group, hgroup, hresult⟩
    obtain ⟨item, hitem, heq⟩ := mem_of_mapM_eq_ok h group hgroup
    exact ⟨item, hitem, group, heq, hresult⟩
  · rintro ⟨item, hitem, group, heq, hresult⟩
    obtain ⟨other, hother, hsame⟩ := exists_mem_of_mapM_eq_ok h item hitem
    cases heq.symm.trans hsame
    exact ⟨group, hother, hresult⟩

/-! ## Lists that are related item by item -/

theorem exists_mem_of_forall₂ {related : α → β → Prop} {items : List α} {others : List β}
    (h : List.Forall₂ related items others) {item : α} (hitem : item ∈ items) :
    ∃ other ∈ others, related item other := by
  induction h with
  | nil => cases hitem
  | cons hfirst _ ih =>
      rcases List.mem_cons.mp hitem with rfl | hitem
      · exact ⟨_, List.mem_cons_self .., hfirst⟩
      · obtain ⟨other, hother, hrelated⟩ := ih hitem
        exact ⟨other, List.mem_cons_of_mem _ hother, hrelated⟩

theorem exists_left_of_forall₂ {related : α → β → Prop} {left : List α} {right : List β}
    (h : List.Forall₂ related left right) : ∀ b ∈ right, ∃ a ∈ left, related a b := by
  intro b hb
  have hflip : List.Forall₂ (flip related) right left := h.flip
  exact exists_mem_of_forall₂ hflip hb

/-! ## Steps that change a state -/

namespace Stateful

variable {σ : Type}

theorem run_bind (first : ExceptT ε (StateM σ) α) (next : α → ExceptT ε (StateM σ) β)
    (state : σ) :
    (first >>= next).run state =
      match first.run state with
      | (.ok value, after) => (next value).run after
      | (.error fault, after) => (.error fault, after) := by
  show (match first.run state with
    | (result, after) => (ExceptT.bindCont next result) after) = _
  cases first.run state with
  | mk result after => cases result <;> rfl

theorem run_bind_ok {first : ExceptT ε (StateM σ) α} {state after : σ} {value : α}
    (next : α → ExceptT ε (StateM σ) β) (h : first.run state = (.ok value, after)) :
    (first >>= next).run state = (next value).run after := by
  rw [run_bind, h]

theorem run_bind_error {first : ExceptT ε (StateM σ) α} {state after : σ} {fault : ε}
    (next : α → ExceptT ε (StateM σ) β) (h : first.run state = (.error fault, after)) :
    (first >>= next).run state = (.error fault, after) := by
  rw [run_bind, h]

/-- What holds of the outcome of two jobs in a row if it holds where the first
fails, and of the second where the first goes through. -/
theorem run_bind_induction (P : Except ε β × σ → Prop) {first : ExceptT ε (StateM σ) α}
    {next : α → ExceptT ε (StateM σ) β} {state : σ}
    (herror : ∀ fault after, first.run state = (.error fault, after) → P (.error fault, after))
    (hok : ∀ value after, first.run state = (.ok value, after) → P ((next value).run after)) :
    P ((first >>= next).run state) := by
  rw [run_bind]
  cases hfirst : first.run state with
  | mk result after =>
      cases result with
      | error fault => exact herror fault after hfirst
      | ok value => exact hok value after hfirst

theorem run_bind_eq_ok {first : ExceptT ε (StateM σ) α} {next : α → ExceptT ε (StateM σ) β}
    {state after : σ} {value : β} (h : (first >>= next).run state = (.ok value, after)) :
    ∃ middle between, first.run state = (.ok middle, between) ∧
      (next middle).run between = (.ok value, after) := by
  rw [run_bind] at h
  cases hfirst : first.run state with
  | mk result between =>
      cases result with
      | error fault => rw [hfirst] at h; cases h
      | ok middle => rw [hfirst] at h; exact ⟨middle, between, rfl, h⟩

end Stateful

end MessageForge
