import Mathlib.Data.List.Basic
import ServiceShapes.Symbol.References

/-!
# What the walk over references meets

`Symbol.transitiveReferences` works through a stack and passes over what it has seen before,
together with everything below it.  Nothing gets lost that way: `Symbol.mem_transitiveReferences`
says that the walk meets exactly the symbols of the whole tree of references.

The walk keeps one invariant.  What it has seen refers only to what it has seen or still has on the
stack; when the stack is empty, the symbols that were seen are closed under references, and so they
hold the whole tree below each of them.

References are finite trees, and `Symbol.inductionOn` is the induction that goes with this.
-/

namespace ServiceShapes.Symbol

variable {s r x : Symbol}

/-! ### The tree -/

theorem treeSize_le_of_mem {l : List Symbol} (h : r ∈ l) : r.treeSize ≤ treeSizes l := by
  induction l with
  | nil => cases h
  | cons s rest ih =>
    rw [treeSizes]
    rcases List.mem_cons.1 h with rfl | h
    · exact Nat.le_add_right _ _
    · exact Nat.le_trans (ih h) (Nat.le_add_left _ _)

/-- A symbol is larger than those it refers to. -/
theorem treeSize_lt_of_mem (h : r ∈ s.references) : r.treeSize < s.treeSize := by
  rw [treeSize_eq s]
  have := treeSize_le_of_mem h
  omega

/-- **What holds of a symbol whenever it holds of all it refers to holds of every symbol.** -/
theorem inductionOn {P : Symbol → Prop} (s : Symbol)
    (step : ∀ s : Symbol, (∀ r ∈ s.references, P r) → P s) : P s :=
  step s fun r _ => inductionOn r step
termination_by s.treeSize
decreasing_by exact treeSize_lt_of_mem ‹_›

/-- A symbol does not refer to itself. -/
theorem not_mem_references_self (s : Symbol) : s ∉ s.references := fun h =>
  Nat.lt_irrefl _ (treeSize_lt_of_mem h)

theorem mem_preorders {l : List Symbol} : x ∈ preorders l ↔ ∃ r ∈ l, x ∈ r.preorder := by
  induction l with
  | nil => simp [preorders]
  | cons s rest ih => simp [preorders, ih]

/-- **The tree below a symbol consists of its references and the trees below these.** -/
theorem mem_referenceTree :
    x ∈ s.referenceTree ↔ ∃ r ∈ s.references, x = r ∨ x ∈ r.referenceTree := by
  rw [referenceTree, mem_preorders]
  refine exists_congr fun r => and_congr_right fun _ => ?_
  rw [preorder_eq, List.mem_cons, referenceTree]

/-! ### The walk -/

/-- A symbol that was seen before can go from the stack. -/
theorem pending_of_old {stack seen : List Symbol} (old : s ∈ seen) (h : x ∈ s :: stack ∨ x ∈ seen) :
    x ∈ stack ∨ x ∈ seen := by
  rcases h with h | h
  · rcases List.mem_cons.1 h with rfl | h
    · exact .inr old
    · exact .inl h
  · exact .inr h

/-- A new symbol goes from the stack to those that were seen. -/
theorem pending_of_new {stack seen : List Symbol} (h : x ∈ s :: stack ∨ x ∈ seen) :
    x ∈ s.references ++ stack ∨ x ∈ s :: seen := by
  rcases h with h | h
  · rcases List.mem_cons.1 h with rfl | h
    · exact .inr List.mem_cons_self
    · exact .inl (List.mem_append_right _ h)
  · exact .inr (List.mem_cons_of_mem _ h)

theorem mem_walk_of_mem (stack seen : List Symbol) (h : x ∈ stack ∨ x ∈ seen) :
    x ∈ walk stack seen := by
  fun_induction walk stack seen with
  | case1 seen => simpa using h
  | case2 s stack seen old ih => exact ih (pending_of_old old h)
  | case3 s stack seen new ih => exact ih (pending_of_new h)

/-- The walk meets nothing but what is on the stack or below it. -/
theorem mem_of_mem_walk (stack seen : List Symbol) (h : x ∈ walk stack seen) :
    x ∈ preorders stack ∨ x ∈ seen := by
  fun_induction walk stack seen with
  | case1 seen => exact .inr (by simpa using h)
  | case2 s stack seen old ih =>
    rw [preorders, List.mem_append]
    exact (ih h).imp_left .inr
  | case3 s stack seen new ih =>
    rw [preorders, List.mem_append, preorder_eq, List.mem_cons]
    rcases ih h with h | h
    · rw [mem_preorders] at h
      obtain ⟨r, hr, below⟩ := h
      rcases List.mem_append.1 hr with hr | hr
      · exact .inl (.inl (.inr (mem_preorders.2 ⟨r, hr, below⟩)))
      · exact .inl (.inr (mem_preorders.2 ⟨r, hr, below⟩))
    · rcases List.mem_cons.1 h with rfl | h
      · exact .inl (.inl (.inl rfl))
      · exact .inr h

/-- A list of symbols that holds all that they refer to. -/
def Closed (l : List Symbol) : Prop := ∀ s ∈ l, ∀ r ∈ s.references, r ∈ l

/-- **The walk ends with a closed list**, since what it has seen refers only to what it has seen or
still has on the stack. -/
theorem closed_walk (stack seen : List Symbol)
    (h : ∀ s ∈ seen, ∀ r ∈ s.references, r ∈ stack ∨ r ∈ seen) : Closed (walk stack seen) := by
  fun_induction walk stack seen with
  | case1 seen =>
    intro s hs r hr
    rw [List.mem_reverse] at hs ⊢
    exact (h s hs r hr).resolve_left List.not_mem_nil
  | case2 s stack seen old ih => exact ih fun t ht r hr => pending_of_old old (h t ht r hr)
  | case3 s stack seen new ih =>
    refine ih fun t ht r hr => ?_
    rcases List.mem_cons.1 ht with rfl | ht
    · exact .inl (List.mem_append_left _ hr)
    · exact pending_of_new (h t ht r hr)

/-- A closed list holds the whole tree below each of its symbols. -/
theorem Closed.referenceTree_subset {l : List Symbol} (closed : Closed l) (hs : s ∈ l)
    (hx : x ∈ s.referenceTree) : x ∈ l := by
  induction s using inductionOn with
  | step s ih =>
    obtain ⟨r, hr, rfl | below⟩ := mem_referenceTree.1 hx
    · exact closed s hs x hr
    · exact ih r hr (closed s hs r hr) below

/-- **The walk meets exactly the symbols of the tree of references.** -/
theorem mem_transitiveReferences : x ∈ s.transitiveReferences ↔ x ∈ s.referenceTree := by
  rw [transitiveReferences]
  constructor
  · intro h
    exact (mem_of_mem_walk _ _ h).resolve_right List.not_mem_nil
  · intro h
    have closed : Closed (walk s.references []) := closed_walk _ _ fun _ h => nomatch h
    obtain ⟨r, hr, rfl | below⟩ := mem_referenceTree.1 h
    · exact mem_walk_of_mem _ _ (.inl hr)
    · exact closed.referenceTree_subset (mem_walk_of_mem _ _ (.inl hr)) below

/-- **What a symbol reaches are its references and what these reach.** -/
theorem mem_transitiveReferences_iff :
    x ∈ s.transitiveReferences ↔ ∃ r ∈ s.references, x = r ∨ x ∈ r.transitiveReferences := by
  rw [mem_transitiveReferences, mem_referenceTree]
  simp only [mem_transitiveReferences]

/-- `P` holds of the symbol and of all that it reaches. -/
def Everywhere (P : Symbol → Prop) (s : Symbol) : Prop := ∀ r ∈ s :: s.transitiveReferences, P r

/-- **`P` holds everywhere when it holds of the symbol, and everywhere below its references.** -/
theorem everywhere_iff {P : Symbol → Prop} :
    s.Everywhere P ↔ P s ∧ ∀ r ∈ s.references, r.Everywhere P := by
  constructor
  · intro h
    refine ⟨h s List.mem_cons_self, fun r hr x hx => h x (List.mem_cons_of_mem _ ?_)⟩
    exact mem_transitiveReferences_iff.2 ⟨r, hr, List.mem_cons.1 hx⟩
  · rintro ⟨root, references⟩ x hx
    rcases List.mem_cons.1 hx with rfl | hx
    · exact root
    · obtain ⟨r, hr, hx⟩ := mem_transitiveReferences_iff.1 hx
      exact references r hr x (List.mem_cons.2 hx)

end ServiceShapes.Symbol
