import Mathlib.Logic.Relation
import ServiceShapes.Proofs.Repetitions
import ServiceShapes.Proofs.Symbols.References

/-!
# The walk in preorder

`Symbol.transitiveReferences` is the preorder of the tree of references without repetitions
(`Symbol.transitiveReferences_eq_eraseDups`), and the walk that makes this list ends
(`Symbol.walkWithin_eq_some`).  The walk passes over a symbol that was seen before
together with everything below it, so there are two things to show: nothing is lost, and what is left
out would not have come earlier than where it is.

One invariant carries both.  Wherever a symbol that was seen occurs in the trees on the stack, all that
lies below it was seen as well or comes before that place (`Symbol.Explored`).  A symbol that was visited
just now has everything below it on the stack still; but it does not occur there, since no symbol lies
below itself.
-/

namespace ServiceShapes.Symbol

variable {s x : Symbol} {stack seen : List Symbol}

/-! ### Below a symbol -/

theorem preorders_append (as bs : List Symbol) :
    preorders (as ++ bs) = preorders as ++ preorders bs := by
  induction as with
  | nil => rfl
  | cons a as ih => rw [List.cons_append, preorders, preorders, ih, List.append_assoc]

/-- A tree on the stack is its root, then what is below it. -/
theorem preorders_cons (s : Symbol) (stack : List Symbol) :
    preorders (s :: stack) = s :: (s.referenceTree ++ preorders stack) := by
  rw [preorders, preorder_eq, List.cons_append, referenceTree]

/-- What is below a symbol is smaller. -/
theorem treeSize_lt_of_mem_referenceTree (h : x ∈ s.referenceTree) : x.treeSize < s.treeSize := by
  induction s using inductionOn with
  | step s ih =>
    obtain ⟨r, hr, rfl | below⟩ := mem_referenceTree.1 h
    · exact treeSize_lt_of_mem hr
    · exact Nat.lt_trans (ih r hr below) (treeSize_lt_of_mem hr)

/-- **No symbol lies below itself.** -/
theorem not_mem_referenceTree_self (s : Symbol) : s ∉ s.referenceTree := fun h =>
  Nat.lt_irrefl _ (treeSize_lt_of_mem_referenceTree h)

/-- The symbol refers to the other one. -/
def RefersTo (s r : Symbol) : Prop := r ∈ s.references

/-- **What is below a symbol is what it can reach by following references.** -/
theorem mem_referenceTree_iff_transGen :
    x ∈ s.referenceTree ↔ Relation.TransGen RefersTo s x := by
  constructor
  · intro h
    induction s using inductionOn with
    | step s ih =>
      obtain ⟨r, hr, rfl | below⟩ := mem_referenceTree.1 h
      · exact .single hr
      · exact .head hr (ih r hr below)
  · intro h
    induction h using Relation.TransGen.head_induction_on with
    | single refers => exact mem_referenceTree.2 ⟨x, refers, .inl rfl⟩
    | head refers _ ih => exact mem_referenceTree.2 ⟨_, refers, .inr ih⟩

/-! ### What was explored -/

/-- Wherever a symbol that was seen occurs in the trees on the stack, everything below it was seen too
or comes before that place. -/
def Explored (stack seen : List Symbol) : Prop :=
  ∀ s ∈ seen, ∀ before after, preorders stack = before ++ s :: after →
    ∀ x ∈ s.referenceTree, x ∈ seen ∨ x ∈ before

/-- A symbol on top of the stack that was seen has nothing new below it. -/
theorem Explored.of_old (h : Explored (s :: stack) seen) (old : s ∈ seen) (hx : x ∈ s.referenceTree) :
    x ∈ seen :=
  (h s old [] _ (preorders_cons s stack) x hx).resolve_right List.not_mem_nil

/-- The invariant is kept when a symbol is passed over. -/
theorem Explored.pass (h : Explored (s :: stack) seen) (old : s ∈ seen) : Explored stack seen := by
  intro t ht before after cut x hx
  have cut' : preorders (s :: stack) = (s :: s.referenceTree ++ before) ++ t :: after := by
    rw [preorders_cons, cut, List.cons_append, List.cons_append, List.append_assoc]
  rcases h t ht _ _ cut' x hx with there | earlier
  · exact .inl there
  · rcases List.mem_append.1 earlier with inside | earlier
    · rcases List.mem_cons.1 inside with rfl | below
      · exact .inl old
      · exact .inl (h.of_old old below)
    · exact .inr earlier

/-- The invariant is kept when a symbol is visited. -/
theorem Explored.visit (h : Explored (s :: stack) seen) :
    Explored (s.references ++ stack) (s :: seen) := by
  intro t ht before after cut x hx
  rw [preorders_append, ← referenceTree] at cut
  rcases List.mem_cons.1 ht with rfl | ht
  · -- the symbol itself: the trees below it come first, and it is not in them
    rcases List.append_eq_append_iff.1 cut with ⟨more, rfl, -⟩ | ⟨more, inside, next⟩
    · exact .inr (List.mem_append_left more hx)
    · cases more with
      | nil =>
        rw [List.append_nil] at inside
        exact .inr (inside ▸ hx)
      | cons t' more =>
        obtain ⟨rfl, -⟩ := List.cons.inj next
        refine absurd ?_ (not_mem_referenceTree_self t)
        rw [inside]
        exact List.mem_append_right before List.mem_cons_self
  · have cut' : preorders (s :: stack) = (s :: before) ++ t :: after := by
      rw [preorders_cons, cut, List.cons_append]
    rcases h t ht _ _ cut' x hx with there | earlier
    · exact .inl (List.mem_cons_of_mem s there)
    · rcases List.mem_cons.1 earlier with rfl | earlier
      · exact .inl List.mem_cons_self
      · exact .inr earlier

/-! ### The walk -/

/-- The walk, given up when it takes more rounds.  Each round takes one symbol from the stack. -/
def walkWithin : (rounds : Nat) → (stack seen : List Symbol) → Option (List Symbol)
  | _, [], seen => some seen.reverse
  | 0, _ :: _, _ => none
  | n + 1, s :: stack, seen =>
    if s ∈ seen then walkWithin n stack seen else walkWithin n (s.references ++ stack) (s :: seen)

/-- **The walk ends** after at most as many rounds as there are symbols in the trees on the stack. -/
theorem walkWithin_eq_some {n : Nat} (enough : (preorders stack).length ≤ n) :
    walkWithin n stack seen = some (walk stack seen) := by
  fun_induction walk stack seen generalizing n with
  | case1 seen => rw [walkWithin]
  | case2 s stack seen old ih =>
    rw [preorders_cons, List.length_cons, List.length_append] at enough
    obtain _ | n := n
    · omega
    · rw [walkWithin, if_pos old]
      exact ih (by omega)
  | case3 s stack seen new ih =>
    rw [preorders_cons, List.length_cons, referenceTree, ← preorders_append] at enough
    obtain _ | n := n
    · omega
    · rw [walkWithin, if_neg new]
      exact ih (by omega)

/-- **The walk lists what was seen, then the trees on the stack, and leaves out what repeats.** -/
theorem walk_eq_eraseDups (stack seen : List Symbol) (distinct : seen.Nodup)
    (explored : Explored stack seen) :
    walk stack seen = (seen.reverse ++ preorders stack).eraseDups := by
  fun_induction walk stack seen with
  | case1 seen =>
    rw [preorders, List.append_nil, List.eraseDups_of_nodup (List.nodup_reverse.2 distinct)]
  | case2 s stack seen old ih =>
    have nothing_new : ∀ x ∈ s :: s.referenceTree, x ∈ seen.reverse := by
      intro x hx
      rw [List.mem_reverse]
      rcases List.mem_cons.1 hx with rfl | below
      · exact old
      · exact explored.of_old old below
    rw [ih distinct (explored.pass old), preorders_cons, ← List.cons_append, ← List.append_assoc,
      List.eraseDups_append_of_subset nothing_new]
  | case3 s stack seen new ih =>
    -- the symbol moves from the stack to the end of what was seen
    rw [ih (List.nodup_cons.2 ⟨new, distinct⟩) explored.visit, preorders_cons, preorders_append,
      List.reverse_cons, List.append_assoc, List.singleton_append, referenceTree]

theorem transitiveReferences_eq (s : Symbol) :
    s.transitiveReferences = s.referenceTree.eraseDups := by
  have explored : Explored s.references [] := fun _ h => nomatch h
  rw [transitiveReferences, walk_eq_eraseDups _ _ List.nodup_nil explored, List.reverse_nil,
    List.nil_append, referenceTree]

/-- **The walk is the preorder of the tree of references, with every occurrence after the first left
out.**  It ends after at most as many rounds as this tree has symbols.  So it lists exactly what can be
reached by following references, each symbol once; it holds all that its symbols refer to, and it does
not hold the symbol where it starts. -/
theorem transitiveReferences_eq_eraseDups (s : Symbol) :
    walkWithin s.referenceTree.length s.references [] = some s.transitiveReferences ∧
    s.transitiveReferences = s.referenceTree.eraseDups ∧
    s.transitiveReferences.Nodup ∧
    (∀ x, x ∈ s.transitiveReferences ↔ Relation.TransGen RefersTo s x) ∧
    Closed s.transitiveReferences ∧
    s ∉ s.transitiveReferences := by
  refine ⟨walkWithin_eq_some (Nat.le_refl _), transitiveReferences_eq s, ?_, fun x => ?_, ?_, ?_⟩
  · rw [transitiveReferences_eq]
    exact List.nodup_eraseDups s.referenceTree
  · rw [mem_transitiveReferences, mem_referenceTree_iff_transGen]
  · exact closed_walk _ _ fun _ h => nomatch h
  · rw [mem_transitiveReferences]
    exact not_mem_referenceTree_self s

end ServiceShapes.Symbol
