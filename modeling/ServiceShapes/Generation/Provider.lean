import ServiceShapes.Generation.Error
import ServiceShapes.Shape
import ServiceShapes.Symbol.Basic

/-!
# Symbol providers

A provider resolves shapes to symbols.  A stage derives a new symbol from the one that an inner
provider gave; `SymbolProvider.wrap` puts a stage around a provider and asks the provider first.
-/

namespace ServiceShapes

/-- Resolves shapes to symbols. -/
abbrev SymbolProvider := Shape → Generated Symbol

/-- Derives a symbol of a shape from the one that is there. -/
abbrev SymbolStage := Shape → Symbol → Generated Symbol

namespace SymbolProvider

/-- The provider followed by a stage. -/
def wrap (provider : SymbolProvider) (stage : SymbolStage) : SymbolProvider := fun shape =>
  match provider shape with
  | .error e => .error e
  | .ok symbol => stage shape symbol

@[simp] theorem wrap_of_error {provider : SymbolProvider} {stage : SymbolStage} {shape : Shape}
    {e : GenerationError} (h : provider shape = .error e) :
    provider.wrap stage shape = .error e := by
  simp [wrap, h]

@[simp] theorem wrap_of_ok {provider : SymbolProvider} {stage : SymbolStage} {shape : Shape}
    {symbol : Symbol} (h : provider shape = .ok symbol) :
    provider.wrap stage shape = stage shape symbol := by
  simp [wrap, h]

/-- The provider followed by stages, the first one innermost. -/
def wrapAll (provider : SymbolProvider) (stages : List SymbolStage) : SymbolProvider :=
  stages.foldl wrap provider

end SymbolProvider

end ServiceShapes
