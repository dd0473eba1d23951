import Mathlib.Data.Prod.Lex
import Mathlib.Data.String.Basic
import ServiceShapes.Model.Suggestion

/-!
# The suggestions are the near ids

Every known id that is near enough is suggested, as often as it is known (`suggest_perm_near`).  The order
of suggestions tells any two different ones apart, also those of different ids with the same text.  So
the near ids alone determine the answer: the order in which they are known has no say (`suggest_perm`),
and a smaller limit cuts the answer off at some place (`suggest_prefix`).
-/

namespace List

/-- In a list in ascending order, what lies below a bound is a beginning of the list. -/
theorem filter_prefix_of_pairwise {α : Type} {l : List α} {p : α → Bool} {R : α → α → Prop}
    (sorted : l.Pairwise R) (down : ∀ a b, R a b → p b = true → p a = true) : l.filter p <+: l := by
  induction l with
  | nil => exact prefix_refl _
  | cons a l ih =>
    obtain ⟨first, sorted⟩ := pairwise_cons.1 sorted
    cases below : p a with
    | true =>
      rw [filter_cons_of_pos below]
      exact (prefix_cons_inj a).2 (ih sorted)
    | false =>
      -- nothing behind `a` may lie below the bound if `a` does not
      have none : l.filter p = [] := by
        refine filter_eq_nil_iff.2 fun b hb kept => ?_
        rw [down a b (first b hb) kept] at below
        cases below
      rw [filter_cons_of_neg (by simp [below]), none]
      exact nil_prefix

end List

namespace ServiceShapes

namespace Suggestion

/-- The suggestion of a known id. -/
def of (wanted candidate : ShapeId) : Suggestion :=
  ⟨candidate.toText, shapeDistance wanted candidate⟩

/-- Suggestions are ordered by distance, and those at the same distance by their texts. -/
def AtMost (a b : Suggestion) : Prop :=
  a.distance < b.distance ∨ a.distance = b.distance ∧ a.candidate ≤ b.candidate

/-- What suggestions are ordered by. -/
def key (s : Suggestion) : Nat ×ₗ String := toLex (s.distance, s.candidate)

theorem key_injective : Function.Injective key := by
  rintro ⟨_, _⟩ ⟨_, _⟩ same
  cases same
  rfl

variable {a b : Suggestion}

theorem atMost_iff_key : a.AtMost b ↔ a.key ≤ b.key := by
  rw [key, key, Prod.Lex.toLex_le_toLex]
  rfl

theorem le_iff_atMost : a.le b = true ↔ a.AtMost b := by
  simp [le, AtMost]

/-- Suggestions in order are determined by which they are and how often each occurs. -/
theorem eq_of_perm_of_ascending {l l' : List Suggestion} (perm : l.Perm l')
    (sorted : l.Pairwise AtMost) (sorted' : l'.Pairwise AtMost) : l = l' := by
  refine perm.eq_of_pairwise (fun a b _ _ before after => ?_) sorted sorted'
  exact key_injective (le_antisymm (atMost_iff_key.1 before) (atMost_iff_key.1 after))

end Suggestion

variable {wanted : ShapeId} {known known' : List ShapeId} {limit limit' : Nat}

/-- The ids that may be suggested: all but the wanted one, up to the given distance. -/
def nearIds (wanted : ShapeId) (known : List ShapeId) (limit : Nat) : List ShapeId :=
  known.filter fun candidate => candidate ≠ wanted ∧ shapeDistance wanted candidate ≤ limit

theorem filterMap_ofCandidate? (wanted : ShapeId) (known : List ShapeId) (limit : Nat) :
    known.filterMap (Suggestion.ofCandidate? wanted limit) =
      (nearIds wanted known limit).map (Suggestion.of wanted) := by
  induction known with
  | nil => rfl
  | cons candidate known ih =>
    rw [List.filterMap_cons, ih, nearIds, nearIds, List.filter_cons, Suggestion.ofCandidate?]
    by_cases same : candidate = wanted
    · simp [same]
    · by_cases near : shapeDistance wanted candidate ≤ limit
      · simp [same, near, Suggestion.of]
      · simp [same, near]

/-- **Every near id is suggested, as often as it is known, and nothing else is.** -/
theorem suggest_perm_near (wanted : ShapeId) (known : List ShapeId) (limit : Nat) :
    (suggest wanted known limit).Perm ((nearIds wanted known limit).map (Suggestion.of wanted)) := by
  rw [suggest, filterMap_ofCandidate?]
  exact List.mergeSort_perm _ _

/-- **The closest ids come first.** -/
theorem ascending_suggest (wanted : ShapeId) (known : List ShapeId) (limit : Nat) :
    (suggest wanted known limit).Pairwise Suggestion.AtMost := by
  have le_iff {a b : Suggestion} : a.le b = true ↔ a.key ≤ b.key :=
    Suggestion.le_iff_atMost.trans Suggestion.atMost_iff_key
  have trans (a b c : Suggestion) : a.le b = true → b.le c = true → a.le c = true := by
    simp only [le_iff]
    exact le_trans
  have total (a b : Suggestion) : (a.le b || b.le a) = true := by
    rw [Bool.or_eq_true, le_iff, le_iff]
    exact le_total a.key b.key
  exact (List.pairwise_mergeSort trans total _).imp Suggestion.le_iff_atMost.1

/-- **The order in which the ids are known has no say.** -/
theorem suggest_perm (perm : known'.Perm known) :
    suggest wanted known' limit = suggest wanted known limit := by
  refine Suggestion.eq_of_perm_of_ascending ?_ (ascending_suggest _ _ _) (ascending_suggest _ _ _)
  have near : ((nearIds wanted known' limit).map (Suggestion.of wanted)).Perm
      ((nearIds wanted known limit).map (Suggestion.of wanted)) := (perm.filter _).map _
  exact ((suggest_perm_near _ _ _).trans near).trans (suggest_perm_near _ _ _).symm

/-- With a smaller limit, the suggestions that lie beyond it are dropped. -/
theorem suggest_eq_filter (le : limit ≤ limit') : suggest wanted known limit =
    (suggest wanted known limit').filter fun s => s.distance ≤ limit := by
  have kept : nearIds wanted known limit =
      (nearIds wanted known limit').filter fun id => shapeDistance wanted id ≤ limit := by
    rw [nearIds, nearIds, List.filter_filter]
    refine List.filter_congr fun id _ => ?_
    rw [← Bool.decide_and, decide_eq_decide]
    constructor
    · rintro ⟨other, near⟩
      exact ⟨near, other, near.trans le⟩
    · rintro ⟨near, other, -⟩
      exact ⟨other, near⟩
  have perm : (suggest wanted known limit).Perm
      (((nearIds wanted known limit').map (Suggestion.of wanted)).filter
        fun s => s.distance ≤ limit) := by
    rw [List.filter_map]
    exact kept ▸ suggest_perm_near wanted known limit
  exact Suggestion.eq_of_perm_of_ascending (perm.trans ((suggest_perm_near _ _ _).filter _).symm)
    (ascending_suggest _ _ _) ((ascending_suggest _ _ _).filter _)

/-- **A larger limit only adds suggestions behind the others.** -/
theorem suggest_prefix (le : limit ≤ limit') :
    suggest wanted known limit <+: suggest wanted known limit' := by
  rw [suggest_eq_filter le]
  refine List.filter_prefix_of_pairwise (ascending_suggest _ _ _) fun a b before near => ?_
  simp only [decide_eq_true_eq] at near ⊢
  rcases before with closer | ⟨same, -⟩
  · omega
  · omega

/-- **The suggestions are exactly the near ids, the closest first.**  Each known id that is not the wanted
one and not beyond the limit is suggested with its text and its distance, as often as it is known, and
nothing else is.  Neither the order of the known ids nor a larger limit changes what stands at the
beginning. -/
theorem suggest_exactly_near (wanted : ShapeId) (known : List ShapeId) (limit : Nat) :
    (suggest wanted known limit).Perm
      ((known.filter fun id => id ≠ wanted ∧ shapeDistance wanted id ≤ limit).map
        fun id => ⟨id.toText, shapeDistance wanted id⟩) ∧
    (suggest wanted known limit).Pairwise
      (fun a b => a.distance < b.distance ∨ a.distance = b.distance ∧ a.candidate ≤ b.candidate) ∧
    (∀ known', known'.Perm known → suggest wanted known' limit = suggest wanted known limit) ∧
    ∀ limit', limit ≤ limit' → suggest wanted known limit <+: suggest wanted known limit' :=
  ⟨suggest_perm_near wanted known limit, ascending_suggest wanted known limit,
    fun _ perm => suggest_perm perm, fun _ le => suggest_prefix le⟩

/-- Two ids with the same text, one that differs in case only, and the wanted id itself. -/
theorem suggest_sameTexts :
    let wanted := (ShapeId.ofName "a" "b").withMember "d"
    let member := (ShapeId.ofName "a" "b").withMember "c"
    let known := [member, ShapeId.ofName "a" "b$c", wanted, (ShapeId.ofName "A" "B").withMember "D"]
    known.reverse.Perm known ∧ 0 ≤ 1 ∧
    suggest wanted known 1 = [⟨"A#B$D", 0⟩, ⟨"a#b$c", 1⟩, ⟨"a#b$c", 1⟩] ∧
    suggest wanted known.reverse 0 = suggest wanted known 0 ∧
    suggest wanted known 0 <+: suggest wanted known 1 := by
  intro wanted member known
  obtain ⟨near, ascending, -, -⟩ := suggest_exactly_near wanted known 1
  obtain ⟨-, -, reordered, cutOff⟩ := suggest_exactly_near wanted known 0
  have perm : known.reverse.Perm known := known.reverse_perm
  let folded : Suggestion := ⟨"A#B$D", 0⟩
  let edited : Suggestion := ⟨"a#b$c", 1⟩
  have listed : (nearIds wanted known 1).map (.of wanted) = [edited, edited, folded] := by decide
  have suggested : suggest wanted known 1 = [folded, edited, edited] := by
    refine Suggestion.eq_of_perm_of_ascending (near.trans ?_) ascending ?_
    · exact listed ▸ List.reverse_perm [folded, edited, edited]
    · simp [Suggestion.AtMost, folded, edited]
  exact ⟨perm, Nat.zero_le 1, suggested, reordered _ perm, cutOff 1 (Nat.zero_le 1)⟩

end ServiceShapes
