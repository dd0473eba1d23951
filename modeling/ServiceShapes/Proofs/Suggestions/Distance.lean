import ServiceShapes.Model.Suggestion
import ServiceShapes.Proofs.Text.EditDistance

/-!
# The distance of ids

Ids with the same namespace and the same member part are compared by their names alone.  This is only
faster: the texts of such ids differ between a common beginning and a common end
(`ShapeId.chars_eq_around_name`), and common ends do not count.  So the distance of two ids is that of
their texts, unless the texts differ in the case of ASCII letters only (`shapeDistance_eq`).
-/

namespace ServiceShapes

variable {wanted candidate : ShapeId}

/-- The texts of ids that share namespace and member part differ only in the names. -/
theorem ShapeId.chars_eq_around_name (ns : wanted.ns = candidate.ns)
    (member : wanted.member = candidate.member) :
    ∃ p s, wanted.chars = p ++ wanted.name.toList ++ s ∧
      candidate.chars = p ++ candidate.name.toList ++ s := by
  refine ⟨wanted.ns.toList ++ ['#'], wanted.member.elim [] fun m => '$' :: m.toList, ?_, ?_⟩
  · unfold ShapeId.chars
    cases wanted.member <;> simp
  · rw [ns, member]
    unfold ShapeId.chars
    cases candidate.member <;> simp

/-- **Names alone tell how far such ids are apart.** -/
theorem levenshtein_name (ns : wanted.ns = candidate.ns) (member : wanted.member = candidate.member) :
    Text.levenshtein wanted.name.toList candidate.name.toList =
      Text.levenshtein wanted.chars candidate.chars := by
  obtain ⟨p, s, wantedText, candidateText⟩ := ShapeId.chars_eq_around_name ns member
  rw [wantedText, candidateText, Text.levenshtein_append_append]

/-- **Comparing names alone is no shortcut.**  Ids whose texts differ in the case of ASCII letters only
are at distance zero, and all others as many insertions, deletions and substitutions apart as their whole
texts are; the names alone tell this number when namespace and member part are the same. -/
theorem shapeDistance_eq (wanted candidate : ShapeId) :
    shapeDistance wanted candidate =
      (if foldAsciiCase wanted.chars = foldAsciiCase candidate.chars then 0
        else Text.levenshtein wanted.chars candidate.chars) ∧
    (wanted.ns = candidate.ns ∧ wanted.member = candidate.member →
      Text.levenshtein wanted.name.toList candidate.name.toList =
        Text.levenshtein wanted.chars candidate.chars) ∧
    ∀ a b, IsLeast {n | Text.Edits n a b} (Text.levenshtein a b) := by
  refine ⟨?_, fun ⟨ns, member⟩ => levenshtein_name ns member, Text.isLeast_levenshtein⟩
  unfold shapeDistance
  split
  · rfl
  · split
    · rename_i same
      exact levenshtein_name same.1 same.2
    · rfl

/-- A letter is missing in the name.  The namespace and the member part around it are the same, so the names
alone are as far apart as the whole texts. -/
theorem shapeDistance_misspelled :
    let wanted := (ShapeId.ofName "a" "Rom").withMember "m$m"
    let candidate := (ShapeId.ofName "a" "Room").withMember "m$m"
    (wanted.ns = candidate.ns ∧ wanted.member = candidate.member) ∧
    Text.levenshtein wanted.name.toList candidate.name.toList =
      Text.levenshtein wanted.chars candidate.chars ∧
    shapeDistance wanted candidate = 1 := by
  intro wanted candidate
  have same : wanted.ns = candidate.ns ∧ wanted.member = candidate.member := ⟨rfl, rfl⟩
  exact ⟨same, (shapeDistance_eq wanted candidate).2.1 same, by decide⟩

end ServiceShapes
