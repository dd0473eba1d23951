import ServiceShapes.Generation.Context
import ServiceShapes.Generation.Provider
import ServiceShapes.Text.PascalCase

/-!
# Plain symbols

`baseProvider` gives every shape its plain representation.

* Simple types become built-in types, or a type of another crate.
* Lists and maps become collections that refer to the symbols of their parts and take over their
  dependencies.
* Structures, unions, operations and services become named types in the module for their role.
* A member has the symbol of its target if it is required or belongs to a union; otherwise its
  type is optional and its symbol refers to that of the target.

Following list items, map keys and values, and member targets always comes to an end unless a type
contains itself.  The chain of shapes met on the way has no repetition then, so it is at most one
longer than the model; `resolve` is given that much depth and reports a longer chain as an endless
type.
-/

namespace ServiceShapes

namespace BaseSymbols

/-- The symbol of free-form data, from the crate that parses JSON. -/
def document : Symbol :=
  { Symbol.ofType (.named "Value" (some "serde_json")) with
    ns := "serde_json", dependencies := [.ofRegistry "serde_json" "1"] }

/-- The symbol of a simple type. -/
def simple : SimpleType → Symbol
  | .blob => .ofType (.vec (.integer 8))
  | .boolean => .ofType .bool
  | .string => .ofType .string
  | .byte => .ofType (.integer 8)
  | .short => .ofType (.integer 16)
  | .integer => .ofType (.integer 32)
  | .long => .ofType (.integer 64)
  | .float => .ofType (.float 32)
  | .double => .ofType (.float 64)
  | .timestamp => .ofType (.named "SystemTime" (some "std::time"))
  | .document => document

/-- The module of a structure or union, by its role. -/
def aggregateModule (modules : ModulePaths) (traits : TraitSet) : String :=
  if traits.syntheticInput?.isSome then modules.input
  else if traits.syntheticOutput?.isSome then modules.output
  else if traits.errorFault?.isSome then modules.error
  else modules.model

/-- The symbol of a shape that becomes a named type. -/
def named (shape : Shape) (module : String) : Symbol :=
  let name := String.ofList (Text.pascalCase shape.id.name.toList)
  { Symbol.ofType (.named name (some module)) with
    ns := module, documentation := shape.traits.documentation? }

/-- The symbol of a collection, with the dependencies of its parts and references to them. -/
def collection (type : RustType) (parts : List Symbol) : Symbol :=
  parts.foldl (fun s part => (s.addDependencies part.dependencies).addReference part) (.ofType type)

/-- The symbol of a list. -/
def list (item : Symbol) : Symbol := collection (.vec item.type) [item]

/-- The symbol of a map. -/
def map (key value : Symbol) : Symbol := collection (.hashMap key.type value.type) [key, value]

/-- The documentation of a member: its own, or else that of its target. -/
def memberDocumentation (member : Shape) (target : Symbol) : Option String :=
  member.traits.documentation?.or target.documentation

/-- The symbol of a member that is always there. -/
def plainMember (member : Shape) (target : Symbol) : Symbol :=
  { target with documentation := memberDocumentation member target }

/-- The symbol of a member that may be left out. -/
def optionalMember (member : Shape) (target : Symbol) : Symbol :=
  let s := (Symbol.ofType (.option target.type)).addDependencies target.dependencies
  { s with
    ns := target.ns
    documentation := memberDocumentation member target }.addReference target

/-- The symbol of a member of a container. -/
def member (container : Option Shape) (member : Shape) (target : Symbol) : Symbol :=
  if container.any Shape.isUnion || member.traits.isRequired then plainMember member target
  else optionalMember member target

/-- Resolves a shape; `depth` bounds the chain of shapes that is followed. -/
def resolve (model : Model) (modules : ModulePaths) : (depth : Nat) → Shape → Generated Symbol
  | 0, shape => .error (.endlessType shape.id)
  | depth + 1, shape =>
    match shape.kind with
    | .simple type => .ok (simple type)
    | .list item => do
      let item ← ofModel (model.expect item)
      let item ← resolve model modules depth item
      .ok (list item)
    | .map key value => do
      let key ← ofModel (model.expect key)
      let key ← resolve model modules depth key
      let value ← ofModel (model.expect value)
      let value ← resolve model modules depth value
      .ok (map key value)
    | .aggregate _ _ => .ok (named shape (aggregateModule modules shape.traits))
    | .operation .. => .ok (named shape modules.operation)
    | .service _ => .ok (named shape "crate")
    | .member target => do
      let target ← ofModel (model.expect target)
      let target ← resolve model modules depth target
      let container ← ofModel (model.expect shape.id.withoutMember)
      .ok (member (some container) shape target)

end BaseSymbols

/-- Resolves every shape to its plain representation. -/
def baseProvider (model : Model) (modules : ModulePaths) : SymbolProvider :=
  BaseSymbols.resolve model modules (model.size + 1)

end ServiceShapes
