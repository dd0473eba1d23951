/-!
# Splitting text at a separator

`splitFirst sep s` cuts `s` at the first occurrence of `sep`; `splitFirst_eq_some_iff` pins it
down: the parts put together again are `s`, and the first part holds no `sep`.  `splitAll p s`
cuts at every character with the property `p` and keeps empty pieces (`splitAll_eq_splitOnP`), so that no
such character is left in them (`eq_false_of_mem_splitAll`).
-/

namespace ServiceShapes.Text

/-- The text before and after the first `sep`; `none` if there is no `sep`. -/
def splitFirst (sep : Char) : List Char → Option (List Char × List Char)
  | [] => none
  | c :: r =>
    if c = sep then some ([], r)
    else (splitFirst sep r).map fun (before, after) => (c :: before, after)

/-- **Splitting loses nothing and stops at the first separator.** -/
theorem splitFirst_eq_some_iff {sep : Char} {s a b : List Char} :
    splitFirst sep s = some (a, b) ↔ s = a ++ sep :: b ∧ sep ∉ a := by
  induction s generalizing a with
  | nil => simp [splitFirst]
  | cons c r ih =>
    by_cases h : c = sep
    · subst h
      cases a with
      | nil => simp [splitFirst]
      | cons d a =>
        simp only [splitFirst, if_true, Option.some.injEq, Prod.mk.injEq, List.nil_eq,
          reduceCtorEq, false_and, List.cons_append, List.cons.injEq, List.mem_cons, not_or, false_iff]
        rintro ⟨⟨rfl, -⟩, h, -⟩
        exact h rfl
    · cases a with
      | nil => simp [splitFirst, h]
      | cons d a =>
        simp only [splitFirst, h, if_false, Option.map_eq_some_iff, Prod.exists, Prod.mk.injEq,
          List.cons.injEq, List.cons_append, List.mem_cons, not_or]
        constructor
        · rintro ⟨x, y, hxy, ⟨rfl, rfl⟩, rfl⟩
          obtain ⟨rfl, hx⟩ := ih.1 hxy
          exact ⟨⟨rfl, rfl⟩, fun e => h e.symm, hx⟩
        · rintro ⟨⟨rfl, rfl⟩, -, ha⟩
          exact ⟨a, b, ih.2 ⟨rfl, ha⟩, ⟨rfl, rfl⟩, rfl⟩

/-- **No split means no separator.** -/
theorem splitFirst_eq_none_iff {sep : Char} {s : List Char} :
    splitFirst sep s = none ↔ sep ∉ s := by
  induction s with
  | nil => simp [splitFirst]
  | cons c r ih =>
    by_cases h : c = sep
    · simp [splitFirst, h]
    · have h' : ¬sep = c := fun e => h e.symm
      simp [splitFirst, h, h', ih]

/-- The part after the separator is shorter than the whole. -/
theorem length_lt_of_splitFirst {sep : Char} {s a b : List Char}
    (h : splitFirst sep s = some (a, b)) : b.length < s.length := by
  obtain ⟨rfl, -⟩ := splitFirst_eq_some_iff.1 h
  simp only [List.length_append, List.length_cons]
  omega

/-- The pieces of `s` between characters with the property `p`, empty ones included. -/
def splitAll (p : Char → Bool) : List Char → List (List Char)
  | [] => [[]]
  | c :: r =>
    if p c then [] :: splitAll p r
    else match splitAll p r with
      | [] => [[c]]
      | piece :: pieces => (c :: piece) :: pieces

theorem splitAll_eq_splitOnP (p : Char → Bool) (s : List Char) : splitAll p s = s.splitOnP p := by
  induction s with
  | nil => rfl
  | cons c r ih =>
    rw [splitAll, List.splitOnP_cons_eq_if_modifyHead, ih]
    obtain ⟨piece, pieces, cut⟩ := List.exists_cons_of_ne_nil (List.splitOnP_ne_nil p r)
    rw [cut, List.modifyHead_cons]

theorem eq_false_of_mem_splitAll {p : Char → Bool} {s piece : List Char} (h : piece ∈ splitAll p s) :
    ∀ c ∈ piece, p c = false := by
  fun_induction splitAll p s generalizing piece with
  | case1 =>
    rw [List.mem_singleton.1 h]
    exact List.forall_mem_nil _
  | case2 c r here ih =>
    rcases List.mem_cons.1 h with rfl | later
    · exact List.forall_mem_nil _
    · exact ih later
  | case3 c r here none ih =>
    rw [List.mem_singleton.1 h, List.forall_mem_singleton]
    exact Bool.eq_false_iff.2 here
  | case4 c r here first rest cut ih =>
    rw [cut] at ih
    rcases List.mem_cons.1 h with rfl | later
    · exact List.forall_mem_cons.2 ⟨Bool.eq_false_iff.2 here, ih List.mem_cons_self⟩
    · exact ih (List.mem_cons_of_mem _ later)

end ServiceShapes.Text
