import ServiceShapes.Generation.BaseSymbols
import ServiceShapes.Generation.Customization
import ServiceShapes.Generation.StreamSymbols
import ServiceShapes.Text.Display

/-!
# Decorators

A decorator is a named extension of the generator: it may change the list of customizations of a
service and put stages around the symbol provider.  A `Registry` keeps decorators in ascending
order; decorators of equal order stay in the order of their registration.  Those that apply to a
context are used one after another, each on what the one before it left.
-/

namespace ServiceShapes

/-- An extension of the generator. -/
structure Decorator where
  name : String
  /-- Lower numbers go first. -/
  order : Int := 0
  applies : Context → Bool := fun _ => true
  customize : Context → List Customization → List Customization := fun _ customizations =>
    customizations
  provide : Context → SymbolProvider → SymbolProvider := fun _ provider => provider

/-- Decorators in ascending order. -/
structure Registry where
  decorators : List Decorator

namespace Registry

/-- Decorators sorted by their order numbers; equal numbers keep their places. -/
def sort (ds : List Decorator) : List Decorator := ds.mergeSort fun a b => a.order ≤ b.order

/-- The registry of some decorators. -/
def ofList (ds : List Decorator) : Registry := ⟨sort ds⟩

/-- The registry with one more decorator. -/
def register (r : Registry) (d : Decorator) : Registry := ⟨sort (r.decorators ++ [d])⟩

/-- The registry with more decorators, registered one after another. -/
def registerAll (r : Registry) (ds : List Decorator) : Registry := ds.foldl register r

/-- The number of decorators. -/
def size (r : Registry) : Nat := r.decorators.length

/-- Whether there are no decorators. -/
def isEmpty (r : Registry) : Bool := r.decorators.isEmpty

/-- The decorators that apply to a context, in order. -/
def applicable (r : Registry) (ctx : Context) : List Decorator :=
  r.decorators.filter fun d => d.applies ctx

/-- The customizations for a context, made from given ones. -/
def customizations (r : Registry) (ctx : Context) (base : List Customization) :
    List Customization :=
  (r.applicable ctx).foldl (fun customizations d => d.customize ctx customizations) base

/-- The symbol provider for a context, made from a given one. -/
def provider (r : Registry) (ctx : Context) (base : SymbolProvider) : SymbolProvider :=
  (r.applicable ctx).foldl (fun provider d => d.provide ctx provider) base

/-- The names and order numbers of the decorators, as one line. -/
def describe (r : Registry) : String :=
  let entry (d : Decorator) := "(" ++ Text.displayQuoted d.name ++ ", " ++ toString d.order ++ ")"
  "[" ++ ", ".intercalate (r.decorators.map entry) ++ "]"

end Registry

/-- The standard way to resolve shapes: plain symbols, event streams, then the decorators. -/
def standardProvider (ctx : Context) (registry : Registry) : SymbolProvider :=
  registry.provider ctx
    (SymbolProvider.wrap (baseProvider ctx.model ctx.modules) (StreamSymbols.ofContext ctx).stage)

end ServiceShapes
