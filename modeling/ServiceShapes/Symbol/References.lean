import ServiceShapes.Symbol.Basic

/-!
# References between symbols

* `Symbol.transitiveReferences` lists every symbol that can be reached through references, depth
  first and without repetition.  It works through a stack: a symbol that was met before is passed
  over together with everything below it.
* `Symbol.referenceTree` lists the same tree in full, repetitions included.
* `Symbol.allDependencies` merges the dependencies of a symbol with those of every symbol it
  reaches.
-/

namespace ServiceShapes.Symbol

/-! ### The tree below a symbol -/

mutual

/-- The number of symbols in a tree of references, with its root. -/
def treeSize : Symbol → Nat
  | ⟨_, _, _, _, references, _⟩ => 1 + treeSizes references

/-- The number of symbols in several trees. -/
def treeSizes : List Symbol → Nat
  | [] => 0
  | s :: rest => treeSize s + treeSizes rest

end

theorem treeSize_eq (s : Symbol) : s.treeSize = 1 + treeSizes s.references := by
  cases s; rfl

theorem treeSizes_append (as bs : List Symbol) :
    treeSizes (as ++ bs) = treeSizes as + treeSizes bs := by
  induction as with
  | nil => simp [treeSizes]
  | cons a as ih => simp only [List.cons_append, treeSizes, ih]; omega

mutual

/-- A symbol followed by everything below it, each reference before the next. -/
def preorder : Symbol → List Symbol
  | ⟨name, ns, type, dependencies, references, documentation⟩ =>
    ⟨name, ns, type, dependencies, references, documentation⟩ :: preorders references

/-- Several trees, one after another. -/
def preorders : List Symbol → List Symbol
  | [] => []
  | s :: rest => preorder s ++ preorders rest

end

theorem preorder_eq (s : Symbol) : s.preorder = s :: preorders s.references := by
  cases s; rfl

/-- Everything below a symbol, as often as it occurs. -/
def referenceTree (s : Symbol) : List Symbol := preorders s.references

/-! ### The walk -/

/-- Visits the symbols on the stack and everything below them, except what was seen before.
`seen` holds the symbols met so far, last first. -/
def walk : (stack seen : List Symbol) → List Symbol
  | [], seen => seen.reverse
  | s :: stack, seen =>
    if s ∈ seen then walk stack seen else walk (s.references ++ stack) (s :: seen)
termination_by stack => treeSizes stack
decreasing_by
  · simp only [treeSizes, treeSize_eq]; omega
  · simp only [treeSizes, treeSize_eq, treeSizes_append]; omega

/-- Every symbol that can be reached through references, depth first, without repetition. -/
def transitiveReferences (s : Symbol) : List Symbol := walk s.references []

/-- The dependencies of a symbol and of everything it refers to, merged per crate. -/
def allDependencies (s : Symbol) : List Dependency :=
  Dependency.merge (s.dependencies ++ s.transitiveReferences.flatMap (·.dependencies))

end ServiceShapes.Symbol
