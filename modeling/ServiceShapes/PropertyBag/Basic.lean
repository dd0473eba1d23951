import ServiceShapes.Text.Display

/-!
# Property bags

A property bag holds values of different types, at most one of each.  Types are named by the
elements of `κ`, and `Value k` is the type that `k` names.

The bag does not know the types of its values: it files each under the name of a type and gives it
back only if it has the type that is asked for (`AnyValue.as?`).  A value that was filed under the
name of another type would look as if it were not there.
-/

namespace ServiceShapes

/-- A value of any type, with the name of its type. -/
structure AnyValue (κ : Type) (Value : κ → Type) where
  kind : κ
  value : Value kind

/-- The value, if it has the type that is asked for. -/
def AnyValue.as? {κ : Type} {Value : κ → Type} [DecidableEq κ] (any : AnyValue κ Value) (kind : κ) :
    Option (Value kind) :=
  if same : any.kind = kind then some (same ▸ any.value) else none

/-- Values of different types, filed under the names of types. -/
structure PropertyBag (κ : Type) (Value : κ → Type) where
  entries : List (κ × AnyValue κ Value) := []
  nodup_kinds : (entries.map (·.1)).Nodup := by simp

namespace PropertyBag

variable {κ : Type} {Value : κ → Type}

/-- The bag without any value. -/
def empty : PropertyBag κ Value := {}

/-- The names under which a value is filed. -/
def kinds (bag : PropertyBag κ Value) : List κ := bag.entries.map (·.1)

/-- How many values there are. -/
def size (bag : PropertyBag κ Value) : Nat := bag.entries.length

/-- Whether there is no value. -/
def isEmpty (bag : PropertyBag κ Value) : Bool := bag.entries.isEmpty

/-- Shows the types of the values, in order of their names. -/
def describe (name : κ → String) (bag : PropertyBag κ Value) : String :=
  let names := (bag.entries.map fun entry => name entry.2.kind).mergeSort fun a b => !decide (b < a)
  "PropertyBag \x7b types: [" ++ ", ".intercalate (names.map Text.displayQuoted) ++ "] \x7d"

variable [DecidableEq κ]

/-- What is filed under the name of a type. -/
def filed? (bag : PropertyBag κ Value) (kind : κ) : Option (AnyValue κ Value) :=
  bag.entries.lookup kind

/-- The value of a type. -/
def get? (bag : PropertyBag κ Value) (kind : κ) : Option (Value kind) :=
  (bag.filed? kind).bind (·.as? kind)

/-- Whether anything is filed under the name of a type. -/
def contains (bag : PropertyBag κ Value) (kind : κ) : Bool := (bag.filed? kind).isSome

/-- The entries under other names. -/
def otherEntries (bag : PropertyBag κ Value) (kind : κ) : List (κ × AnyValue κ Value) :=
  bag.entries.filter (·.1 ≠ kind)

theorem nodup_otherEntries (bag : PropertyBag κ Value) (kind : κ) :
    ((bag.otherEntries kind).map (·.1)).Nodup :=
  bag.nodup_kinds.sublist (List.filter_sublist.map _)

theorem not_mem_otherEntries (bag : PropertyBag κ Value) (kind : κ) :
    kind ∉ (bag.otherEntries kind).map (·.1) := by
  simp [otherEntries]

/-- Puts a value in and gives the value of the same type that was there before. -/
def insert (bag : PropertyBag κ Value) (kind : κ) (value : Value kind) :
    PropertyBag κ Value × Option (Value kind) :=
  ({ entries := (kind, ⟨kind, value⟩) :: bag.otherEntries kind
     nodup_kinds := List.nodup_cons.2
      ⟨bag.not_mem_otherEntries kind, bag.nodup_otherEntries kind⟩ },
    bag.get? kind)

/-- Takes the value of a type out and gives it. -/
def remove (bag : PropertyBag κ Value) (kind : κ) : PropertyBag κ Value × Option (Value kind) :=
  ({ entries := bag.otherEntries kind, nodup_kinds := bag.nodup_otherEntries kind },
    bag.get? kind)

/-- Changes a value in its place, if it has the type that the change is for. -/
def changeValue (kind : κ) (change : Value kind → Value kind) (any : AnyValue κ Value) :
    AnyValue κ Value :=
  match any.as? kind with
  | some value => ⟨kind, change value⟩
  | none => any

/-- Hands out the value of a type to be changed and gives the value that was there before. -/
def update (bag : PropertyBag κ Value) (kind : κ) (change : Value kind → Value kind) :
    PropertyBag κ Value × Option (Value kind) :=
  ({ entries := bag.entries.map fun entry =>
      (entry.1, if entry.1 = kind then changeValue kind change entry.2 else entry.2)
     nodup_kinds := by simpa [Function.comp_def] using bag.nodup_kinds },
    bag.get? kind)

/-- Overwrites the value of a type, if there is one, and gives the value that was there before. -/
def set (bag : PropertyBag κ Value) (kind : κ) (value : Value kind) :
    PropertyBag κ Value × Option (Value kind) :=
  bag.update kind fun _ => value

end PropertyBag

end ServiceShapes
