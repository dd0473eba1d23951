import ServiceShapes.Crate.Dependency
import ServiceShapes.RustType

/-!
# Symbols

A symbol is what a shape becomes in generated code: a name, the namespace it lives in, its type,
the crates it needs, and the symbols it refers to.

`Symbol.ofType` makes the plain symbol of a type; `addDependency` and `addReference` extend a
symbol and pass over what it has already.
-/

namespace ServiceShapes

/-- What a shape becomes in generated code. -/
structure Symbol where
  name : String
  /-- The namespace. -/
  ns : String
  type : RustType
  dependencies : List Dependency
  references : List Symbol
  documentation : Option String
deriving Repr, Inhabited

namespace Symbol

/-! ### Equality -/

mutual

/-- Whether two symbols are equal. -/
def decEq : (a b : Symbol) → Decidable (a = b)
  | ⟨n, s, t, ds, rs, doc⟩, ⟨n', s', t', ds', rs', doc'⟩ =>
    if h : n = n' ∧ s = s' ∧ t = t' ∧ ds = ds' ∧ doc = doc' then
      match decEqAll rs rs' with
      | isTrue g => isTrue (by obtain ⟨rfl, rfl, rfl, rfl, rfl⟩ := h; rw [g])
      | isFalse g => isFalse fun e => g (mk.inj e).2.2.2.2.1
    else isFalse fun e =>
      h ⟨(mk.inj e).1, (mk.inj e).2.1, (mk.inj e).2.2.1, (mk.inj e).2.2.2.1, (mk.inj e).2.2.2.2.2⟩

/-- Whether two lists of symbols are equal. -/
def decEqAll : (as bs : List Symbol) → Decidable (as = bs)
  | [], [] => isTrue rfl
  | [], _ :: _ | _ :: _, [] => isFalse nofun
  | a :: as, b :: bs => match decEq a b, decEqAll as bs with
    | isTrue h, isTrue g => isTrue (h ▸ g ▸ rfl)
    | isFalse h, _ => isFalse fun e => h (List.cons.inj e).1
    | _, isFalse g => isFalse fun e => g (List.cons.inj e).2

end

instance : DecidableEq Symbol := decEq

/-! ### Building -/

/-- The symbol of a type: named as the type is written in short, and nothing else. -/
def ofType (type : RustType) : Symbol := ⟨type.render false, "", type, [], [], none⟩

/-- The symbol with one more dependency, unless it has it already. -/
def addDependency (s : Symbol) (d : Dependency) : Symbol :=
  if d ∈ s.dependencies then s else { s with dependencies := s.dependencies ++ [d] }

/-- The symbol with more dependencies. -/
def addDependencies (s : Symbol) (ds : List Dependency) : Symbol := ds.foldl addDependency s

/-- The symbol with one more reference, unless it has it already. -/
def addReference (s : Symbol) (r : Symbol) : Symbol :=
  if r ∈ s.references then s else { s with references := s.references ++ [r] }

end Symbol

end ServiceShapes
