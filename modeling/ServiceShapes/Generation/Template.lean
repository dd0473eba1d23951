import ServiceShapes.Generation.Error
import ServiceShapes.Generation.RuntimeCrate
import ServiceShapes.Text.Indent
import ServiceShapes.Text.Split

/-!
# Templates

A template is source text with placeholders `#{Name}`.  Each placeholder stands for an item of a
`Scope`: rendering puts the full path of the item in its place and collects the dependencies that
the items need.

* `Template.ofChars` cuts text into literal pieces and placeholders; `Template.toChars` puts them
  together again.
* `Template.render` resolves the placeholders from left to right.
* `renderTemplate` removes the indentation of the text first.
-/

namespace ServiceShapes

/-- The items that placeholders can name; the first entry of a name counts. -/
structure Scope where
  entries : List (String × RuntimeItem) := []
deriving Repr, Inhabited

/-- The item of a name. -/
def Scope.get? (scope : Scope) (name : String) : Option RuntimeItem := scope.entries.lookup name

/-- A piece of source text with the crates it needs. -/
structure Fragment where
  code : String
  dependencies : List Dependency
deriving DecidableEq, Repr, Inhabited

/-- Text with placeholders. -/
inductive Template
  /-- Text without placeholders up to the end. -/
  | literal (text : List Char)
  /-- Text, then a placeholder that is opened and never closed. -/
  | unterminated (text tail : List Char)
  /-- Text, then a placeholder, then the rest. -/
  | placeholder (text name : List Char) (rest : Template)
deriving Repr, Inhabited

namespace Template

/-- The template with one more character at the start of its first text. -/
def prepend (c : Char) : Template → Template
  | .literal text => .literal (c :: text)
  | .unterminated text tail => .unterminated (c :: text) tail
  | .placeholder text name rest => .placeholder (c :: text) name rest

/-- Cuts text into literal pieces and placeholders. -/
def ofChars : List Char → Template
  | [] => .literal []
  | '#' :: '{' :: r =>
    match _h : Text.splitFirst '}' r with
    | none => .unterminated [] r
    | some (name, rest) => .placeholder [] name (ofChars rest)
  | c :: r => (ofChars r).prepend c
termination_by s => s.length
decreasing_by
  · have := Text.length_lt_of_splitFirst _h
    simp only [List.length_cons]
    omega
  · simp

/-- The text of a template. -/
def toChars : Template → List Char
  | .literal text => text
  | .unterminated text tail => text ++ '#' :: '{' :: tail
  | .placeholder text name rest => text ++ '#' :: '{' :: name ++ '}' :: toChars rest

/-- The number of bytes that a text takes in UTF-8. -/
def byteLength (s : List Char) : Nat := s.foldr (fun c n => c.utf8Size + n) 0

/-- Resolves the placeholders from left to right: the code and the dependencies of the items used,
in order.  `offset` is the number of bytes before the template. -/
def resolve (scope : Scope) : (offset : Nat) → Template → Generated (List Char × List Dependency)
  | _, .literal text => .ok (text, [])
  | offset, .unterminated text _ => .error (.unterminatedPlaceholder (offset + byteLength text))
  | offset, .placeholder text name rest =>
    match scope.get? (String.ofList name) with
    | none => .error (.unresolvedPlaceholder (String.ofList name))
    | some item => do
      let (code, used) ← resolve scope (offset + byteLength text + byteLength name + 3) rest
      .ok (text ++ item.fullPath.toList ++ code, item.dependency.toList ++ used)

/-- The code of a template and the crates it needs. -/
def render (scope : Scope) (t : Template) : Generated Fragment := do
  let (code, used) ← t.resolve scope 0
  .ok ⟨String.ofList code, Dependency.merge used⟩

end Template

/-- Renders a template that may be written at any indentation. -/
def renderTemplate (scope : Scope) (text : String) : Generated Fragment :=
  (Template.ofChars (Text.unindent text.toList)).render scope

end ServiceShapes
