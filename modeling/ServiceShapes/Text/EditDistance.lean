/-!
# Edit distance

`levenshtein a b` is the least number of single-character insertions, deletions and substitutions
that turn `a` into `b`.  It is computed row by row: row `i` holds the distances from the first `i`
characters of `a` to each initial part of `b`.
-/

namespace ServiceShapes.Text

/-- The tail of the next row.  `diagonal` is the distance to the left in the row above, `above` is
the rest of that row, and `left` is the distance computed last. -/
def levenshteinTail (c : Char) : (left diagonal : Nat) → (above : List Nat) → List Char → List Nat
  | _, _, [], _ => []
  | _, _, _, [] => []
  | left, diagonal, up :: above, d :: b =>
    let here := min (min (left + 1) (up + 1)) (diagonal + if c = d then 0 else 1)
    here :: levenshteinTail c here up above b

/-- The row after `row` when one more character `c` of the first text is taken. -/
def levenshteinRow (b : List Char) (row : List Nat) (c : Char) : List Nat :=
  match row with
  | [] => []
  | first :: above => (first + 1) :: levenshteinTail c (first + 1) first above b

/-- The least number of insertions, deletions and substitutions from `a` to `b`. -/
def levenshtein (a b : List Char) : Nat :=
  (a.foldl (levenshteinRow b) (List.range (b.length + 1))).getLastD 0

example : levenshtein "kitten".toList "sitting".toList = 3 := by decide

example : levenshtein [] "ab".toList = 2 := by decide

end ServiceShapes.Text
