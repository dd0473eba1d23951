import ServiceShapes.Proofs.Text.Edits
import ServiceShapes.Text.EditDistance

/-!
# The edit distance, row by row

`Text.levenshtein` goes through its first text and keeps a row of numbers.  The invariant says which: they
are the distances from what was read so far to each initial part of the second text, all of them read
backwards (`Text.row`).  One more character turns one such row into the next (`Text.levenshteinRow_row`),
and the last number of the last row is the distance of the whole texts.

So `Text.levenshtein` is the least number of edits (`Text.isLeast_levenshtein`).  What two texts have in
common at their ends does not count (`Text.levenshtein_append_append`): at the front this is seen from the
front, at the back by reading backwards.
-/

namespace ServiceShapes.Text

variable {a b : List Char} {c d : Char}

/-! ### Rows -/

/-- The distances of `a` to the longer and longer texts that come from reading `b` behind `done`, all of
them backwards. -/
def rowTail (a : List Char) : (done : List Char) → List Char → List Nat
  | _, [] => []
  | done, d :: b => distance a (d :: done) :: rowTail a (d :: done) b

/-- The distances of `a` to the initial parts of `b`, read backwards. -/
def row (a b : List Char) : List Nat := distance a [] :: rowTail a [] b

/-- Before anything is read, the distances are the lengths. -/
theorem row_nil (b : List Char) : row [] b = List.range (b.length + 1) := by
  have tail : ∀ done, rowTail [] done b = List.range' (done.length + 1) b.length := by
    induction b with
    | nil => intro done; rfl
    | cons d b ih =>
      intro done
      rw [rowTail, distance_nil_left, ih, List.length_cons, List.length_cons, List.range'_succ]
  rw [row, tail, distance_nil_left, List.range_eq_range', List.range'_succ]
  rfl

theorem levenshteinTail_rowTail (c : Char) (a done b : List Char) :
    levenshteinTail c (distance (c :: a) done) (distance a done) (rowTail a done b) b =
      rowTail (c :: a) done b := by
  induction b generalizing done with
  | nil => rfl
  | cons d b ih =>
    rw [rowTail, rowTail, levenshteinTail, ← ih, ← distance_cons_cons]

/-- **One more character turns a row into the next one.** -/
theorem levenshteinRow_row (c : Char) (a b : List Char) :
    levenshteinRow b (row a b) c = row (c :: a) b := by
  have first : distance a [] + 1 = distance (c :: a) [] := by simp
  rw [row, levenshteinRow, first, levenshteinTail_rowTail, ← row]

theorem foldl_levenshteinRow (a done b : List Char) :
    a.foldl (levenshteinRow b) (row done b) = row (a.reverse ++ done) b := by
  induction a generalizing done with
  | nil => rfl
  | cons c a ih => rw [List.foldl_cons, levenshteinRow_row, ih, List.reverse_cons, List.append_assoc,
      List.singleton_append]

/-- The last number of a row belongs to the whole text. -/
theorem getLastD_row (a b : List Char) : (row a b).getLastD 0 = distance a b.reverse := by
  have last : ∀ done, (rowTail a done b).getLastD (distance a done) =
      distance a (b.reverse ++ done) := by
    induction b with
    | nil => intro done; rfl
    | cons d b ih =>
      intro done
      rw [rowTail, List.getLastD_cons, ih, List.reverse_cons, List.append_assoc,
        List.singleton_append]
  rw [row, List.getLastD_cons, last, List.append_nil]

/-- **The last number of the last row is the distance.** -/
theorem levenshtein_eq_distance (a b : List Char) : levenshtein a b = distance a b := by
  rw [levenshtein, ← row_nil, foldl_levenshteinRow, List.append_nil, getLastD_row, distance_reverse]

/-- **The edit distance is the least number of insertions, deletions and substitutions.** -/
theorem isLeast_levenshtein (a b : List Char) : IsLeast {n | Edits n a b} (levenshtein a b) := by
  rw [levenshtein_eq_distance]
  exact isLeast_distance a b

/-! ### Common ends -/

/-- **A common first character does not count.** -/
theorem distance_cons_cons_self (c : Char) (a b : List Char) :
    distance (c :: a) (c :: b) = distance a b := by
  have left := distance_le_cons_left c a b
  have right := distance_le_cons_right a c b
  rw [distance_cons_cons, if_pos rfl]
  omega

theorem distance_append_left (p a b : List Char) :
    distance (p ++ a) (p ++ b) = distance a b := by
  induction p with
  | nil => rfl
  | cons c p ih => rw [List.cons_append, List.cons_append, distance_cons_cons_self, ih]

theorem distance_append_right (s a b : List Char) :
    distance (a ++ s) (b ++ s) = distance a b := by
  rw [← distance_reverse, List.reverse_append, List.reverse_append, distance_append_left,
    distance_reverse]

/-- **What two texts have in common at both ends does not count.** -/
theorem levenshtein_append_append (p s a b : List Char) :
    levenshtein (p ++ a ++ s) (p ++ b ++ s) = levenshtein a b := by
  rw [levenshtein_eq_distance, levenshtein_eq_distance, distance_append_right, distance_append_left]

end ServiceShapes.Text
