import Mathlib.Data.List.Nodup
import ServiceShapes.Model.Basic

/-!
# Building models

`Model.ofShapes` is pinned down by what goes in and what comes out: it succeeds with `m` exactly
when the shapes of `m` are the given ones in some order (`Model.ofShapes_eq_ok_iff`).  Everything
else about building follows from this and from the order that a model keeps its shapes in, which
leaves one shape for each id (`Model.eq_of_id_eq`).

It fails only because an id is repeated, and reports the first repetition
(`Model.ofShapes_eq_error_iff`).
-/

namespace ServiceShapes

namespace Model

/-! ### One shape for each id -/

/-- The ids of a model are pairwise different. -/
theorem nodup_ids (m : Model) : m.ids.Nodup := by
  rw [ids, List.Nodup, List.pairwise_map]
  refine m.sorted.imp ?_
  intro a b before equal
  rw [equal] at before
  exact ShapeId.lt_irrefl _ before

/-- **The id of a shape singles it out in a model.** -/
theorem eq_of_id_eq {m : Model} {s t : Shape} (hs : s ∈ m.shapes) (ht : t ∈ m.shapes)
    (h : s.id = t.id) : s = t :=
  List.inj_on_of_nodup_map m.nodup_ids hs ht h

/-- Looking up finds exactly the shapes of the model. -/
theorem get?_eq_some_iff {m : Model} {id : ShapeId} {s : Shape} :
    m.get? id = some s ↔ s ∈ m.shapes ∧ s.id = id := by
  constructor
  · intro h
    exact ⟨mem_of_get? h, id_of_get? h⟩
  · rintro ⟨hs, rfl⟩
    cases found : m.get? s.id with
    | none => exact absurd rfl (get?_eq_none_iff.1 found s hs)
    | some t => rw [eq_of_id_eq (mem_of_get? found) hs (id_of_get? found)]

/-- A shape of a model is found under its own id. -/
theorem get?_id {m : Model} {s : Shape} (hs : s ∈ m.shapes) : m.get? s.id = some s :=
  get?_eq_some_iff.2 ⟨hs, rfl⟩

/-- Models with the same shapes, in whatever order, are equal. -/
theorem eq_of_perm {m m' : Model} (h : m.shapes.Perm m'.shapes) : m = m' :=
  Model.ext <| h.eq_of_pairwise (fun _ _ _ _ before after => absurd after (ShapeId.lt_asymm before))
    m.sorted m'.sorted

/-! ### Adding shapes -/

theorem insertSorted_perm (s : Shape) (l : List Shape) : (insertSorted s l).Perm (s :: l) := by
  induction l with
  | nil => exact .refl _
  | cons t rest ih =>
    rw [insertSorted]
    split
    · exact .refl _
    · exact (ih.cons t).trans (.swap s t rest)

/-- What is added is there afterwards, beside what was there before. -/
theorem perm_of_insertAll {m m' : Model} {l : List Shape} (h : m.insertAll l = .ok m') :
    m'.shapes.Perm (l ++ m.shapes) := by
  induction l generalizing m with
  | nil =>
    cases h
    exact .refl _
  | cons s rest ih =>
    rw [insertAll] at h
    split at h
    · refine (ih h).trans ?_
      exact ((insertSorted_perm s m.shapes).append_left rest).trans List.perm_middle
    · cases h

/-- Shapes with new and different ids can all be added. -/
theorem exists_insertAll {m : Model} {l : List Shape} (fresh : ∀ s ∈ l, m.get? s.id = none)
    (distinct : (l.map (·.id)).Nodup) : ∃ m', m.insertAll l = .ok m' := by
  induction l generalizing m with
  | nil => exact ⟨m, rfl⟩
  | cons s rest ih =>
    obtain ⟨notMem, distinct⟩ := List.nodup_cons.1 distinct
    have first : m.get? s.id = none := fresh s List.mem_cons_self
    rw [insertAll, dif_pos first]
    -- the shapes that are left are new beside `s` as well
    refine ih ?_ distinct
    intro t ht
    rw [get?_eq_none_iff]
    intro u hu equal
    rcases mem_insertSorted.1 hu with rfl | hu
    · exact notMem (List.mem_map.2 ⟨t, ht, equal.symm⟩)
    · exact get?_eq_none_iff.1 (fresh t (List.mem_cons_of_mem _ ht)) u hu equal

/-- **Building succeeds with exactly the model that holds the given shapes.** -/
theorem ofShapes_eq_ok_iff {l : List Shape} {m : Model} : ofShapes l = .ok m ↔ m.shapes.Perm l := by
  constructor
  · intro h
    simpa [empty] using perm_of_insertAll h
  · intro h
    have distinct : (l.map (·.id)).Nodup := (h.map Shape.id).nodup m.nodup_ids
    obtain ⟨m', built⟩ := exists_insertAll (m := empty) (fun _ _ => rfl) distinct
    have same : m'.shapes.Perm l := by simpa [empty] using perm_of_insertAll built
    rw [ofShapes, built, eq_of_perm (same.trans h.symm)]

/-! ### Ids that are taken -/

/-- Adding fails at the first shape whose id is taken by then. -/
theorem insertAll_eq_error_iff {m : Model} {l : List Shape} {e : ModelError} :
    m.insertAll l = .error e ↔ ∃ before s after m', l = before ++ s :: after ∧
      m.insertAll before = .ok m' ∧ m'.get? s.id ≠ none ∧ e = .duplicateShape s.id := by
  induction l generalizing m with
  | nil => simp [insertAll]
  | cons s l ih =>
    rw [insertAll]
    split
    · rename_i fresh
      rw [ih]
      constructor
      · rintro ⟨before, t, after, m', rfl, added, taken, rfl⟩
        exact ⟨s :: before, t, after, m', rfl, by rw [insertAll, dif_pos fresh, added], taken, rfl⟩
      · rintro ⟨before, t, after, m', same, added, taken, rfl⟩
        cases before with
        | nil =>
          obtain ⟨rfl, rfl⟩ := List.cons.inj same
          cases added
          exact absurd fresh taken
        | cons u before =>
          obtain ⟨rfl, rfl⟩ := List.cons.inj same
          rw [insertAll, dif_pos fresh] at added
          exact ⟨before, t, after, m', rfl, added, taken, rfl⟩
    · rename_i taken
      constructor
      · intro fails
        cases fails
        exact ⟨[], s, l, m, rfl, rfl, taken, rfl⟩
      · rintro ⟨before, t, after, m', same, added, taken', rfl⟩
        cases before with
        | nil =>
          obtain ⟨rfl, rfl⟩ := List.cons.inj same
          rfl
        | cons u before =>
          obtain ⟨rfl, rfl⟩ := List.cons.inj same
          rw [insertAll, dif_neg taken] at added
          cases added

/-- **Shapes make a model exactly if their ids are pairwise different.** -/
theorem exists_ofShapes_eq_ok_iff {l : List Shape} :
    (∃ m, ofShapes l = .ok m) ↔ (l.map (·.id)).Nodup := by
  constructor
  · rintro ⟨m, built⟩
    exact ((ofShapes_eq_ok_iff.1 built).map Shape.id).nodup m.nodup_ids
  · exact exists_insertAll fun _ _ => rfl

/-- **Building fails with the first shape that repeats an id.** -/
theorem ofShapes_eq_error_iff {l : List Shape} {e : ModelError} :
    ofShapes l = .error e ↔ ∃ before s after, l = before ++ s :: after ∧
      (before.map (·.id)).Nodup ∧ s.id ∈ before.map (·.id) ∧ e = .duplicateShape s.id := by
  have taken_iff : ∀ {before : List Shape} {m : Model} {id : ShapeId}, ofShapes before = .ok m →
      (m.get? id ≠ none ↔ id ∈ before.map (·.id)) := by
    intro before m id built
    simp [get?_eq_none_iff, (ofShapes_eq_ok_iff.1 built).mem_iff]
  rw [ofShapes, insertAll_eq_error_iff]
  constructor
  · rintro ⟨before, s, after, m, rfl, built, taken, rfl⟩
    exact ⟨before, s, after, rfl, exists_ofShapes_eq_ok_iff.1 ⟨m, built⟩, (taken_iff built).1 taken, rfl⟩
  · rintro ⟨before, s, after, rfl, distinct, taken, rfl⟩
    obtain ⟨m, built⟩ := exists_ofShapes_eq_ok_iff.2 distinct
    exact ⟨before, s, after, m, rfl, built, (taken_iff built).2 taken, rfl⟩

end Model

end ServiceShapes
