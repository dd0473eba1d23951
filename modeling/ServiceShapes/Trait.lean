import ServiceShapes.ShapeId

/-!
# Traits

A trait annotates a shape.  A `TraitSet` lists the traits of one shape.

* `TraitSet.insert` replaces every trait of the same kind and puts the new one last;
  `TraitSet.collect` builds a set from a list by inserting one after another.
* A set can also be given as a list that is taken as it stands (`TraitSet.mk`), and then may hold
  several traits of one kind: each accessor answers with the first trait of its kind.
-/

namespace ServiceShapes

/-- Which side is to blame for an error. -/
inductive Fault
  | client
  | server
deriving DecidableEq, Repr, Inhabited

/-- An annotation on a shape. -/
inductive Trait
  /-- The member, or the shape it targets, is an event stream. -/
  | streaming
  | required
  | error (fault : Fault)
  | documentation (text : String)
  /-- The structure was made to be the input of this operation. -/
  | syntheticInput (operation : ShapeId)
  /-- The structure was made to be the output of this operation. -/
  | syntheticOutput (operation : ShapeId)
deriving DecidableEq, Repr, Inhabited

/-- The kinds of trait. -/
inductive TraitKind
  | streaming
  | required
  | error
  | documentation
  | syntheticInput
  | syntheticOutput
deriving DecidableEq, Repr, Inhabited

/-- The kind of a trait. -/
def Trait.kind : Trait → TraitKind
  | .streaming => .streaming
  | .required => .required
  | .error _ => .error
  | .documentation _ => .documentation
  | .syntheticInput _ => .syntheticInput
  | .syntheticOutput _ => .syntheticOutput

/-- The traits of one shape, in order. -/
structure TraitSet where
  toList : List Trait := []
deriving DecidableEq, Repr, Inhabited

namespace TraitSet

/-- No traits. -/
def empty : TraitSet := ⟨[]⟩

/-- Adds a trait at the end and drops every other trait of its kind. -/
def insert (set : TraitSet) (t : Trait) : TraitSet :=
  ⟨set.toList.filter (fun old => old.kind ≠ t.kind) ++ [t]⟩

/-- Adds traits one after another. -/
def insertAll (set : TraitSet) (ts : List Trait) : TraitSet := ts.foldl insert set

/-- The set that arises by inserting the traits in order. -/
def collect (ts : List Trait) : TraitSet := empty.insertAll ts

/-- Whether there are no traits. -/
def isEmpty (set : TraitSet) : Bool := set.toList.isEmpty

@[simp] theorem toList_insert (set : TraitSet) (t : Trait) :
    (set.insert t).toList = set.toList.filter (fun old => old.kind ≠ t.kind) ++ [t] := rfl

@[simp] theorem insertAll_nil (set : TraitSet) : set.insertAll [] = set := rfl

@[simp] theorem insertAll_cons (set : TraitSet) (t : Trait) (ts : List Trait) :
    set.insertAll (t :: ts) = (set.insert t).insertAll ts := rfl

/-! ### Accessors -/

/-- Whether the set marks an event stream. -/
def isStreaming (set : TraitSet) : Bool := set.toList.any fun t => t matches .streaming

/-- Whether the set marks a member as required. -/
def isRequired (set : TraitSet) : Bool := set.toList.any fun t => t matches .required

/-- The fault of the first error trait. -/
def errorFault? (set : TraitSet) : Option Fault := set.toList.findSome? fun
  | .error fault => some fault
  | _ => none

/-- The first documentation text. -/
def documentation? (set : TraitSet) : Option String := set.toList.findSome? fun
  | .documentation text => some text
  | _ => none

/-- The operation of the first input link. -/
def syntheticInput? (set : TraitSet) : Option ShapeId := set.toList.findSome? fun
  | .syntheticInput operation => some operation
  | _ => none

/-- The operation of the first output link. -/
def syntheticOutput? (set : TraitSet) : Option ShapeId := set.toList.findSome? fun
  | .syntheticOutput operation => some operation
  | _ => none

end TraitSet

end ServiceShapes
