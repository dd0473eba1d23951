import ServiceShapes.PropertyBag.Basic

/-!
# Shared property bags

A bag can be shared: several handles may lead to the same bag, and what is done through one of them
is seen through all.  Handles are numbered from 0 in the order in which they are made.
-/

namespace ServiceShapes

/-- Property bags and the handles that lead to them. -/
structure SharedBags (κ : Type) (Value : κ → Type) where
  bags : List (PropertyBag κ Value)
  /-- For every handle, which bag it leads to. -/
  handles : List Nat

namespace SharedBags

variable {κ : Type} {Value : κ → Type}

/-- One handle that leads to an empty bag. -/
def single : SharedBags κ Value := ⟨[.empty], [0]⟩

/-- The number of the handle that is made next. -/
def nextHandle (s : SharedBags κ Value) : Nat := s.handles.length

/-- The bag to which a handle leads. -/
def bag? (s : SharedBags κ Value) (handle : Nat) : Option (PropertyBag κ Value) := do
  s.bags[← s.handles[handle]?]?

/-- Makes a handle that leads to a new bag. -/
def addBag (s : SharedBags κ Value) (bag : PropertyBag κ Value) : SharedBags κ Value :=
  ⟨s.bags ++ [bag], s.handles ++ [s.bags.length]⟩

/-- Makes a handle that leads to the bag of another handle. -/
def share (s : SharedBags κ Value) (handle : Nat) : SharedBags κ Value :=
  { s with handles := s.handles ++ s.handles[handle]?.toList }

/-- Replaces the bag to which a handle leads. -/
def setBag (s : SharedBags κ Value) (handle : Nat) (bag : PropertyBag κ Value) :
    SharedBags κ Value :=
  match s.handles[handle]? with
  | some i => { s with bags := s.bags.set i bag }
  | none => s

end SharedBags

end ServiceShapes
