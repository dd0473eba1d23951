import Mathlib.Order.Bounds.Basic

/-!
# Edits of a text

An edit inserts, deletes or substitutes one character, anywhere in a text (`Text.Edit`), and
`Text.Edits n a b` says that `n` edits in a row lead from `a` to `b`.

How many are needed at least can be read off the two texts from the front: their first characters are
matched, or one of them is left out (`Text.distance`).  No edit brings a text more than one step closer
to another one (`Text.Edit.distance_le`), and there are edits that bring it closer by one step each
(`Text.edits_distance`).  So `Text.distance` is the least number of edits (`Text.isLeast_distance`), and
since edits do not care in which direction a text is read, neither does the distance
(`Text.distance_reverse`).
-/

namespace ServiceShapes.Text

variable {a b x : List Char} {c d : Char} {n k : Nat}

/-! ### Edits -/

/-- One character is inserted, deleted or substituted. -/
inductive Edit : List Char → List Char → Prop
  | insert (before after : List Char) (c : Char) : Edit (before ++ after) (before ++ c :: after)
  | delete (before after : List Char) (c : Char) : Edit (before ++ c :: after) (before ++ after)
  | substitute (before after : List Char) (c d : Char) :
      Edit (before ++ c :: after) (before ++ d :: after)

/-- Edits in a row, and their number. -/
inductive Edits : Nat → List Char → List Char → Prop
  | none (a : List Char) : Edits 0 a a
  | first {n : Nat} {a b x : List Char} (edit : Edit a b) (rest : Edits n b x) : Edits (n + 1) a x

/-- A text in front is left alone. -/
theorem Edit.append_left (h : Edit a b) (p : List Char) : Edit (p ++ a) (p ++ b) := by
  cases h with
  | insert before after c => simpa using Edit.insert (p ++ before) after c
  | delete before after c => simpa using Edit.delete (p ++ before) after c
  | substitute before after c d => simpa using Edit.substitute (p ++ before) after c d

theorem Edits.cons (h : Edits n a b) (c : Char) : Edits n (c :: a) (c :: b) := by
  induction h with
  | none a => exact .none (c :: a)
  | first edit _ ih => exact .first (edit.append_left [c]) ih

/-- **Edits can be read backwards** along the text. -/
theorem Edit.reverse (h : Edit a b) : Edit a.reverse b.reverse := by
  cases h with
  | insert before after c => simpa using Edit.insert after.reverse before.reverse c
  | delete before after c => simpa using Edit.delete after.reverse before.reverse c
  | substitute before after c d => simpa using Edit.substitute after.reverse before.reverse c d

theorem Edits.reverse (h : Edits n a b) : Edits n a.reverse b.reverse := by
  induction h with
  | none a => exact .none a.reverse
  | first edit _ ih => exact .first edit.reverse ih

/-! ### Distances from the front -/

/-- How many edits lead from one text to the other, found by reading both from the front. -/
def distance : List Char → List Char → Nat
  | [], b => b.length
  | c :: a, [] => a.length + 1
  | c :: a, d :: b =>
    min (min (distance (c :: a) b + 1) (distance a (d :: b) + 1))
      (distance a b + if c = d then 0 else 1)
termination_by a b => a.length + b.length

@[simp] theorem distance_nil_left (b : List Char) : distance [] b = b.length := by
  rw [distance]

@[simp] theorem distance_nil_right (a : List Char) : distance a [] = a.length := by
  cases a with
  | nil => rw [distance_nil_left]
  | cons c a =>
    rw [distance]
    rfl

theorem distance_cons_cons (c d : Char) (a b : List Char) : distance (c :: a) (d :: b) =
    min (min (distance (c :: a) b + 1) (distance a (d :: b) + 1))
      (distance a b + if c = d then 0 else 1) := by
  rw [distance]

/-- **As many edits as the distance says are enough.** -/
theorem edits_distance (a b : List Char) : Edits (distance a b) a b := by
  fun_induction distance a b with
  | case1 b =>
    induction b with
    | nil => exact .none []
    | cons d b ih => exact .first (.insert [] [] d) (ih.cons d)
  | case2 c a =>
    induction a generalizing c with
    | nil => exact .first (.delete [] [] c) (.none [])
    | cons c' a ih => exact .first (.delete [] (c' :: a) c) (ih c')
  | case3 c a d b insertion deletion others =>
    have inserted : Edits (distance (c :: a) b + 1) (c :: a) (d :: b) :=
      .first (.insert [] (c :: a) d) (insertion.cons d)
    have deleted : Edits (distance a (d :: b) + 1) (c :: a) (d :: b) :=
      .first (.delete [] a c) deletion
    have matched : Edits (distance a b + if c = d then 0 else 1) (c :: a) (d :: b) := by
      split
      · rename_i same
        subst same
        exact others.cons c
      · exact .first (.substitute [] a c d) (others.cons d)
    exact min_rec' (Edits · _ _) (min_rec' (Edits · _ _) inserted deleted) matched

/-! ### No edit is worth more than one step -/

/-- One character more in front is one edit more at most. -/
theorem distance_cons_left_le (c : Char) (a x : List Char) :
    distance (c :: a) x ≤ distance a x + 1 := by
  cases x with
  | nil => simp
  | cons d x =>
    rw [distance_cons_cons]
    omega

theorem distance_cons_right_le (a : List Char) (d : Char) (x : List Char) :
    distance a (d :: x) ≤ distance a x + 1 := by
  cases a with
  | nil => simp
  | cons c a =>
    rw [distance_cons_cons]
    omega

/-- One character less in front is one edit more at most. -/
theorem distance_le_cons_left (c : Char) (a x : List Char) :
    distance a x ≤ distance (c :: a) x + 1 := by
  induction x with
  | nil =>
    simp only [distance_nil_right, List.length_cons]
    omega
  | cons d x ih =>
    have longer := distance_cons_right_le a d x
    rw [distance_cons_cons]
    omega

theorem distance_le_cons_right (a : List Char) (d : Char) (x : List Char) :
    distance a x ≤ distance a (d :: x) + 1 := by
  induction a with
  | nil =>
    simp only [distance_nil_left, List.length_cons]
    omega
  | cons c a ih =>
    have longer := distance_cons_left_le c a x
    rw [distance_cons_cons]
    omega

/-- Another character in front is one edit more at most. -/
theorem distance_cons_le_cons (c e : Char) (a x : List Char) :
    distance (c :: a) x ≤ distance (e :: a) x + 1 := by
  induction x with
  | nil => simp
  | cons d x ih =>
    have longer := distance_cons_right_le (c :: a) d x
    have matched : distance (c :: a) (d :: x) ≤ distance a x + 1 := by
      rw [distance_cons_cons]
      split <;> omega
    have deleted := distance_cons_left_le c a (d :: x)
    rw [distance_cons_cons e]
    omega

/-- What holds behind the first character holds with it. -/
theorem distance_cons_le_of_le (h : ∀ x, distance a x ≤ distance b x + 1) (c : Char)
    (x : List Char) : distance (c :: a) x ≤ distance (c :: b) x + 1 := by
  induction x with
  | nil => simpa using h []
  | cons d x ih =>
    have behind := h x
    have deleted := h (d :: x)
    rw [distance_cons_cons, distance_cons_cons]
    omega

/-- **An edit brings a text at most one step closer to another one.** -/
theorem Edit.distance_le (h : Edit a b) (x : List Char) : distance a x ≤ distance b x + 1 := by
  -- the edit is at the front once the characters before it are put aside
  have behind : ∀ (before : List Char) {a b : List Char}, (∀ x, distance a x ≤ distance b x + 1) →
      ∀ x, distance (before ++ a) x ≤ distance (before ++ b) x + 1 := by
    intro before a b front
    induction before with
    | nil => exact front
    | cons c before ih => exact distance_cons_le_of_le ih c
  cases h with
  | insert before after c => exact behind before (distance_le_cons_left c after) x
  | delete before after c => exact behind before (distance_cons_left_le c after) x
  | substitute before after c d => exact behind before (distance_cons_le_cons c d after) x

theorem Edits.distance_le (h : Edits n a b) : distance a b ≤ n := by
  induction h with
  | none a =>
    induction a with
    | nil => simp
    | cons c a ih =>
      rw [distance_cons_cons, if_pos rfl]
      omega
  | first edit _ ih => exact (edit.distance_le _).trans (Nat.add_le_add_right ih 1)

/-! ### The least number of edits -/

/-- **The distance is the least number of edits.** -/
theorem isLeast_distance (a b : List Char) : IsLeast {n | Edits n a b} (distance a b) :=
  ⟨edits_distance a b, fun _ => Edits.distance_le⟩

/-- **It does not matter from which end the texts are read.** -/
theorem distance_reverse (a b : List Char) : distance a.reverse b.reverse = distance a b := by
  have backwards : {n | Edits n a.reverse b.reverse} = {n | Edits n a b} := by
    ext n
    exact ⟨fun h => by simpa using Edits.reverse h, Edits.reverse⟩
  have least := isLeast_distance a.reverse b.reverse
  rw [backwards] at least
  exact least.unique (isLeast_distance a b)

end ServiceShapes.Text
