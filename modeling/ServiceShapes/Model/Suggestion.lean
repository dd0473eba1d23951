import ServiceShapes.ShapeId
import ServiceShapes.Text.EditDistance

/-!
# Suggestions for unknown ids

`suggest wanted known limit` lists the known ids that are close to a wanted one, closest first.

* Ids whose texts differ in the case of ASCII letters only are at distance zero.
* Ids with the same namespace and the same member part are compared by their names alone, all
  others by their whole texts (`shapeDistance`).
* The wanted id itself is never suggested; ties are ordered by text.
-/

namespace ServiceShapes

/-- A known id close to a wanted one. -/
structure Suggestion where
  candidate : String
  distance : Nat
deriving DecidableEq, Repr, Inhabited

/-- A text with its ASCII letters in lower case. -/
def foldAsciiCase (s : List Char) : List Char := s.map Char.toLower

/-- How far apart two ids are. -/
def shapeDistance (wanted candidate : ShapeId) : Nat :=
  if foldAsciiCase wanted.chars = foldAsciiCase candidate.chars then 0
  else if wanted.ns = candidate.ns ∧ wanted.member = candidate.member then
    Text.levenshtein wanted.name.toList candidate.name.toList
  else Text.levenshtein wanted.chars candidate.chars

namespace Suggestion

/-- Order of suggestions: by distance, then by text. -/
def le (a b : Suggestion) : Bool :=
  a.distance < b.distance || a.distance == b.distance && decide (a.candidate ≤ b.candidate)

/-- The suggestion that a candidate gives rise to, if it is not the wanted id and near enough. -/
def ofCandidate? (wanted : ShapeId) (limit : Nat) (candidate : ShapeId) : Option Suggestion :=
  if candidate = wanted then none
  else
    let distance := shapeDistance wanted candidate
    if distance ≤ limit then some ⟨candidate.toText, distance⟩ else none

end Suggestion

/-- The known ids within `limit` of the wanted one, closest first. -/
def suggest (wanted : ShapeId) (known : List ShapeId) (limit : Nat) : List Suggestion :=
  (known.filterMap (Suggestion.ofCandidate? wanted limit)).mergeSort Suggestion.le

end ServiceShapes
