import Mathlib.Data.List.Forall2

/-!
# Computations that can fail

When a composed computation succeeds, each of its parts does.  These are the lemmas that take a
success apart: one for a sequence of two steps, one for each way of changing a result, and
`List.mapM_eq_ok_iff` for a step taken on every item of a list.

When a composed computation fails, the first part that fails decides the error, and what comes
behind it has no say (`List.mapM_eq_error_iff`, `List.foldlM_eq_error_iff`).
-/

namespace Except

variable {ε ε' α β : Type}

theorem bind_eq_ok_iff {x : Except ε α} {f : α → Except ε β} {b : β} :
    (x >>= f) = .ok b ↔ ∃ a, x = .ok a ∧ f a = .ok b := by
  cases x <;> simp [bind, Except.bind]

theorem bind_eq_error_iff {x : Except ε α} {f : α → Except ε β} {e : ε} :
    (x >>= f) = .error e ↔ x = .error e ∨ ∃ a, x = .ok a ∧ f a = .error e := by
  cases x <;> simp [bind, Except.bind]

theorem map_eq_ok_iff {x : Except ε α} {f : α → β} {b : β} :
    x.map f = .ok b ↔ ∃ a, x = .ok a ∧ f a = b := by
  cases x <;> simp [Except.map]

theorem mapError_eq_ok_iff {x : Except ε α} {f : ε → ε'} {a : α} :
    x.mapError f = .ok a ↔ x = .ok a := by
  cases x <;> simp [Except.mapError]

theorem mapError_eq_error_iff {x : Except ε α} {f : ε → ε'} {e' : ε'} :
    x.mapError f = .error e' ↔ ∃ e, x = .error e ∧ f e = e' := by
  cases x <;> simp [Except.mapError]

end Except

namespace List

variable {ε α β : Type}

/-- In lists that are related item by item, each item of the first has a partner in the second. -/
theorem Forall₂.exists_of_mem_left {R : α → β → Prop} {l : List α} {r : List β} (h : Forall₂ R l r)
    {a : α} (mem : a ∈ l) : ∃ b ∈ r, R a b := by
  induction h with
  | nil => cases mem
  | cons related _ ih =>
    rcases mem_cons.1 mem with rfl | mem
    · exact ⟨_, mem_cons_self, related⟩
    · obtain ⟨b, mem, related⟩ := ih mem
      exact ⟨b, mem_cons_of_mem _ mem, related⟩

theorem Forall₂.exists_of_mem_right {R : α → β → Prop} {l : List α} {r : List β} (h : Forall₂ R l r)
    {b : β} (mem : b ∈ r) : ∃ a ∈ l, R a b :=
  h.flip.exists_of_mem_left mem

/-- **A step taken on every item succeeds item by item.** -/
theorem mapM_eq_ok_iff {f : α → Except ε β} {l : List α} {r : List β} :
    l.mapM f = .ok r ↔ Forall₂ (fun a b => f a = .ok b) l r := by
  induction l generalizing r with
  | nil => cases r <;> simp [pure, Except.pure]
  | cons a l ih =>
    rw [mapM_cons, Except.bind_eq_ok_iff, forall₂_cons_left_iff]
    simp only [Except.bind_eq_ok_iff, ih, pure, Except.pure, Except.ok.injEq]
    constructor
    · rintro ⟨b, hb, bs, hbs, rfl⟩
      exact ⟨b, bs, hb, hbs, rfl⟩
    · rintro ⟨b, bs, hb, hbs, rfl⟩
      exact ⟨b, hb, bs, hbs, rfl⟩

/-- What comes out of a step taken on every item comes from one of them. -/
theorem mem_iff_of_mapM_eq_ok {f : α → Except ε β} {l : List α} {r : List β}
    (h : l.mapM f = .ok r) {b : β} : b ∈ r ↔ ∃ a ∈ l, f a = .ok b := by
  replace h := mapM_eq_ok_iff.1 h
  induction h with
  | nil => simp
  | cons goes _ ih =>
    simp only [mem_cons, ih, exists_eq_or_imp, goes, Except.ok.injEq]
    rw [eq_comm]

/-- A step whose successes are known succeeds on a list when it does on every item. -/
theorem mapM_eq_ok_iff_of_step {f : α → Except ε β} {P : α → Prop} {g : α → β}
    (step : ∀ a b, f a = .ok b ↔ P a ∧ g a = b) {l : List α} {r : List β} :
    l.mapM f = .ok r ↔ (∀ a ∈ l, P a) ∧ l.map g = r := by
  rw [mapM_eq_ok_iff]
  simp only [step]
  induction l generalizing r with
  | nil => simp [eq_comm]
  | cons a l ih =>
    rw [forall₂_cons_left_iff, forall_mem_cons, map_cons]
    simp only [ih]
    constructor
    · rintro ⟨b, bs, ⟨ha, rfl⟩, ⟨hl, rfl⟩, rfl⟩
      exact ⟨⟨ha, hl⟩, rfl⟩
    · rintro ⟨⟨ha, hl⟩, rfl⟩
      exact ⟨g a, l.map g, ⟨ha, rfl⟩, ⟨hl, rfl⟩, rfl⟩

/-- A step that undoes `g` on every item undoes `g` on the whole list. -/
theorem mapM_map_eq_ok {f : β → Except ε α} {g : α → β} {l : List α}
    (undo : ∀ a ∈ l, f (g a) = .ok a) : (l.map g).mapM f = .ok l := by
  rw [mapM_eq_ok_iff, forall₂_map_left_iff, forall₂_same]
  exact undo

/-! ### The first error -/

/-- **A step taken on every item fails with the first item on which it fails.** -/
theorem mapM_eq_error_iff {f : α → Except ε β} {l : List α} {e : ε} :
    l.mapM f = .error e ↔ ∃ before a after, l = before ++ a :: after ∧
      (∀ b ∈ before, ∃ r, f b = .ok r) ∧ f a = .error e := by
  induction l with
  | nil => simp [pure, Except.pure]
  | cons a l ih =>
    simp only [mapM_cons, Except.bind_eq_error_iff, ih, pure, Except.pure, reduceCtorEq, and_false,
      exists_false, or_false]
    constructor
    · rintro (fails | ⟨r, answers, before, b, after, rfl, others, fails⟩)
      · exact ⟨[], a, l, rfl, by simp, fails⟩
      · exact ⟨a :: before, b, after, rfl, forall_mem_cons.2 ⟨⟨r, answers⟩, others⟩, fails⟩
    · rintro ⟨before, b, after, same, others, fails⟩
      cases before with
      | nil =>
        obtain ⟨rfl, rfl⟩ := cons.inj same
        exact .inl fails
      | cons b' before =>
        obtain ⟨rfl, rfl⟩ := cons.inj same
        obtain ⟨⟨r, answers⟩, others⟩ := forall_mem_cons.1 others
        exact .inr ⟨r, answers, before, b, after, rfl, others, fails⟩

/-- A step can be taken on every item of a list exactly if it can be on each. -/
theorem exists_mapM_eq_ok_iff {f : α → Except ε β} {l : List α} :
    (∃ r, l.mapM f = .ok r) ↔ ∀ a ∈ l, ∃ b, f a = .ok b := by
  constructor
  · rintro ⟨r, all⟩
    replace all := mapM_eq_ok_iff.1 all
    induction all with
    | nil => simp
    | cons goes _ ih => exact forall_mem_cons.2 ⟨⟨_, goes⟩, ih⟩
  · intro each
    cases h : l.mapM f with
    | ok r => exact ⟨r, rfl⟩
    | error e =>
      obtain ⟨before, a, after, rfl, -, fails⟩ := mapM_eq_error_iff.1 h
      obtain ⟨b, goes⟩ := each a (mem_append_right _ mem_cons_self)
      rw [fails] at goes
      cases goes

/-- **Steps taken one after another fail with the first step that fails** on what the steps before
it left. -/
theorem foldlM_eq_error_iff {f : β → α → Except ε β} {l : List α} {b : β} {e : ε} :
    l.foldlM f b = .error e ↔ ∃ before a after b', l = before ++ a :: after ∧
      before.foldlM f b = .ok b' ∧ f b' a = .error e := by
  induction l generalizing b with
  | nil => simp [pure, Except.pure]
  | cons a l ih =>
    simp only [foldlM_cons, Except.bind_eq_error_iff, ih]
    constructor
    · rintro (fails | ⟨b₁, goes, before, a', after, b', rfl, reaches, fails⟩)
      · exact ⟨[], a, l, b, rfl, rfl, fails⟩
      · refine ⟨a :: before, a', after, b', rfl, ?_, fails⟩
        rw [foldlM_cons, goes]
        exact reaches
    · rintro ⟨before, a', after, b', same, reaches, fails⟩
      cases before with
      | nil =>
        obtain ⟨rfl, rfl⟩ := cons.inj same
        cases reaches
        exact .inl fails
      | cons a₁ before =>
        obtain ⟨rfl, rfl⟩ := cons.inj same
        rw [foldlM_cons, Except.bind_eq_ok_iff] at reaches
        obtain ⟨b₁, goes, reaches⟩ := reaches
        exact .inr ⟨b₁, goes, before, a', after, b', rfl, reaches, fails⟩

end List
