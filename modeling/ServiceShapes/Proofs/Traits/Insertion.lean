import Mathlib.Data.List.Dedup
import ServiceShapes.Trait

/-!
# Inserting traits

Every accessor of a trait set looks at the traits of one kind and answers with the first of them, so all
answers together depend on nothing but the first trait of each kind (`TraitSet.answers_eq`).

Inserting keeps the last trait of each kind.  What a sequence of insertions makes of any list is said
twice: kind by kind (`TraitSet.ofKind_insertAll`) and as one list (`TraitSet.toList_insertAll`), where the
kinds that were not inserted come first, as they were, and the others behind them in the order of their
last insertion.  The list that is started from may hold several traits of one kind.
-/

namespace ServiceShapes

namespace Trait

variable {kind : TraitKind}

/-- The traits of one kind in a list. -/
def ofKind (kind : TraitKind) (ts : List Trait) : List Trait := ts.filter (·.kind = kind)

/-- The first trait of a kind. -/
def first? (kind : TraitKind) (ts : List Trait) : Option Trait := (ofKind kind ts).head?

/-- The last trait of a kind. -/
def last? (kind : TraitKind) (ts : List Trait) : Option Trait := (ofKind kind ts).getLast?

theorem mem_ofKind {t : Trait} {ts : List Trait} : t ∈ ofKind kind ts ↔ t ∈ ts ∧ t.kind = kind := by
  simp [ofKind]

theorem ofKind_cons (t : Trait) (ts : List Trait) :
    ofKind kind (t :: ts) = if t.kind = kind then t :: ofKind kind ts else ofKind kind ts := by
  simp [ofKind, List.filter_cons]

/-- A later trait of the kind counts before an earlier one. -/
theorem last?_cons (t : Trait) (ts : List Trait) :
    last? kind (t :: ts) = (last? kind ts).or (if t.kind = kind then some t else none) := by
  unfold last?
  rw [ofKind_cons]
  split
  · cases h : (ofKind kind ts).getLast? <;> simp [List.getLast?_cons, h]
  · simp

theorem last?_eq_none_iff {ts : List Trait} : last? kind ts = none ↔ kind ∉ ts.map Trait.kind := by
  rw [last?, List.getLast?_eq_none_iff, ofKind, List.filter_eq_nil_iff]
  simp

end Trait

/-! ### Accessors -/

/-- What the accessors of a trait set answer. -/
structure TraitAnswers where
  streaming : Bool
  required : Bool
  fault : Option Fault
  documentation : Option String
  input : Option ShapeId
  output : Option ShapeId
deriving DecidableEq, Repr

/-- The answers that the given traits stand for, at most one of each kind. -/
def TraitAnswers.ofTraits (trait? : TraitKind → Option Trait) : TraitAnswers where
  streaming := (trait? .streaming).isSome
  required := (trait? .required).isSome
  fault := (trait? .error).bind fun
    | .error fault => some fault
    | _ => none
  documentation := (trait? .documentation).bind fun
    | .documentation text => some text
    | _ => none
  input := (trait? .syntheticInput).bind fun
    | .syntheticInput operation => some operation
    | _ => none
  output := (trait? .syntheticOutput).bind fun
    | .syntheticOutput operation => some operation
    | _ => none

namespace TraitSet

variable {kind : TraitKind}

/-- What all accessors of a set answer. -/
def answers (set : TraitSet) : TraitAnswers where
  streaming := set.isStreaming
  required := set.isRequired
  fault := set.errorFault?
  documentation := set.documentation?
  input := set.syntheticInput?
  output := set.syntheticOutput?

/-- A search that only traits of one kind can end looks at the first of them. -/
theorem findSome?_eq_bind_first? {α : Type} {read : Trait → Option α}
    (only : ∀ t, (read t).isSome = true ↔ t.kind = kind) (ts : List Trait) :
    ts.findSome? read = (Trait.first? kind ts).bind read := by
  unfold Trait.first?
  induction ts with
  | nil => rfl
  | cons t ts ih =>
    rw [List.findSome?_cons, Trait.ofKind_cons]
    cases reads : read t with
    | none =>
      have other : t.kind ≠ kind := fun same => by simpa [reads] using (only t).2 same
      rw [if_neg other]
      exact ih
    | some a =>
      have own : t.kind = kind := (only t).1 (by simp [reads])
      rw [if_pos own, List.head?_cons, Option.bind_some, reads]

/-- A search for a kind finds its first trait. -/
theorem any_eq_isSome_first? {test : Trait → Bool} (only : ∀ t, test t = true ↔ t.kind = kind)
    (ts : List Trait) : ts.any test = (Trait.first? kind ts).isSome := by
  rw [Bool.eq_iff_iff, List.any_eq_true, Trait.first?, List.isSome_head?, ne_eq,
    List.eq_nil_iff_forall_not_mem]
  simp only [Trait.mem_ofKind, only]
  push Not
  rfl

/-- **Each accessor answers with the first trait of its kind.** -/
theorem answers_eq (set : TraitSet) : set.answers = .ofTraits fun kind => Trait.first? kind set.toList := by
  unfold answers TraitAnswers.ofTraits
  congr 1
  · exact any_eq_isSome_first? (by intro t; cases t <;> simp [Trait.kind]) _
  · exact any_eq_isSome_first? (by intro t; cases t <;> simp [Trait.kind]) _
  · exact findSome?_eq_bind_first? (by intro t; cases t <;> simp [Trait.kind]) _
  · exact findSome?_eq_bind_first? (by intro t; cases t <;> simp [Trait.kind]) _
  · exact findSome?_eq_bind_first? (by intro t; cases t <;> simp [Trait.kind]) _
  · exact findSome?_eq_bind_first? (by intro t; cases t <;> simp [Trait.kind]) _

/-! ### Insertion -/

/-- Inserting a trait makes it the only one of its kind and leaves the other kinds alone. -/
theorem ofKind_insert (set : TraitSet) (t : Trait) : Trait.ofKind kind (set.insert t).toList =
    if t.kind = kind then [t] else Trait.ofKind kind set.toList := by
  rw [toList_insert, Trait.ofKind, List.filter_append, List.filter_filter]
  split
  · rename_i own
    have replaced : set.toList.filter
        (fun old => decide (old.kind = kind) && decide (old.kind ≠ t.kind)) = [] := by
      simp [own]
    rw [replaced]
    simp [own]
  · rename_i other
    have kept : ∀ old : Trait,
        (decide (old.kind = kind) && decide (old.kind ≠ t.kind)) = decide (old.kind = kind) := by
      intro old
      by_cases same : old.kind = kind
      · simp [same, Ne.symm other]
      · simp [same]
    simp only [kept]
    simp [Trait.ofKind, other]

/-- **Of an inserted kind, the last inserted trait is the only one**; other kinds stay as they
were. -/
theorem ofKind_insertAll (set : TraitSet) (ts : List Trait) :
    Trait.ofKind kind (set.insertAll ts).toList =
      (Trait.last? kind ts).elim (Trait.ofKind kind set.toList) ([·]) := by
  induction ts generalizing set with
  | nil => rfl
  | cons t ts ih =>
    rw [insertAll_cons, ih, Trait.last?_cons, ofKind_insert]
    cases Trait.last? kind ts with
    | some u => rfl
    | none => split <;> rfl

/-- **The traits that are left, in order**: those of the kinds that were not inserted, then the last
one of each inserted kind. -/
theorem toList_insertAll (set : TraitSet) (ts : List Trait) :
    (set.insertAll ts).toList = set.toList.filter (·.kind ∉ ts.map Trait.kind) ++
      (ts.map Trait.kind).dedup.filterMap (Trait.last? · ts) := by
  induction ts generalizing set with
  | nil => simp
  | cons t ts ih =>
    have others : (set.toList.filter fun old => old.kind ≠ t.kind).filter
        (·.kind ∉ ts.map Trait.kind) = set.toList.filter (·.kind ∉ (t :: ts).map Trait.kind) := by
      rw [List.filter_filter]
      refine List.filter_congr fun old _ => ?_
      simp only [List.map_cons, List.mem_cons, not_or, Bool.decide_and, Bool.and_comm]
    -- behind the first insertion, only its own kind can have another last trait than before
    have later : (ts.map Trait.kind).dedup.filterMap (Trait.last? · (t :: ts)) =
        (ts.map Trait.kind).dedup.filterMap (Trait.last? · ts) := by
      refine List.filterMap_congr fun kind inserted => ?_
      rw [Trait.last?_cons]
      cases h : Trait.last? kind ts with
      | none => exact absurd (List.mem_dedup.1 inserted) (Trait.last?_eq_none_iff.1 h)
      | some u => rfl
    rw [insertAll_cons, ih, toList_insert, List.filter_append, others, List.append_assoc,
      List.map_cons, List.dedup_cons]
    congr 1
    by_cases again : t.kind ∈ ts.map Trait.kind
    · have gone : [t].filter (·.kind ∉ ts.map Trait.kind) = [] :=
        List.filter_cons_of_neg (by simpa only [decide_eq_true_eq, not_not] using again)
      rw [if_pos again, later, gone, List.nil_append]
    · have stays : [t].filter (·.kind ∉ ts.map Trait.kind) = [t] :=
        List.filter_cons_of_pos (by simpa only [decide_eq_true_eq] using again)
      have own : Trait.last? t.kind (t :: ts) = some t := by
        rw [Trait.last?_cons, Trait.last?_eq_none_iff.2 again, if_pos rfl]
        rfl
      simp only [if_neg again, List.filterMap_cons, own, later, stays, List.singleton_append]

/-- **The last insertion wins, kind by kind.**  Whatever list is started from, with repeated kinds or
without, each accessor answers with the last inserted trait of its kind, or else with the first trait
that was there.  An inserted kind is left with that one trait.  The kinds that were not inserted keep
their traits and the order of these; behind them stand the inserted kinds in the order of their last
insertion. -/
theorem insertAll_lastWins (set : TraitSet) (ts : List Trait) :
    (set.insertAll ts).answers =
      .ofTraits (fun kind => (Trait.last? kind ts).or (Trait.first? kind set.toList)) ∧
    (∀ kind, Trait.ofKind kind (set.insertAll ts).toList =
      (Trait.last? kind ts).elim (Trait.ofKind kind set.toList) ([·])) ∧
    (set.insertAll ts).toList = set.toList.filter (·.kind ∉ ts.map Trait.kind) ++
      (ts.map Trait.kind).dedup.filterMap (Trait.last? · ts) := by
  refine ⟨?_, fun kind => ofKind_insertAll set ts, toList_insertAll set ts⟩
  have first : ∀ kind, Trait.first? kind (set.insertAll ts).toList =
      (Trait.last? kind ts).or (Trait.first? kind set.toList) := by
    intro kind
    rw [Trait.first?, ofKind_insertAll]
    cases Trait.last? kind ts <;> rfl
  rw [answers_eq]
  simp only [first]

end TraitSet

end ServiceShapes
