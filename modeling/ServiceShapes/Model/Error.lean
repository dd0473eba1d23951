import ServiceShapes.Model.Suggestion

/-!
# Errors about models

`ModelError` lists what can be wrong with a model or with a question about it, and
`ModelError.message` words it.
-/

namespace ServiceShapes

/-- What is wrong with a model, or with a question about it. -/
inductive ModelError
  /-- No shape has this id; ids close to it are suggested. -/
  | shapeNotFound (id : ShapeId) (suggestions : List Suggestion)
  | notAnOperation (id : ShapeId)
  | invalidShapeId (text : String)
  | duplicateShape (id : ShapeId)
deriving DecidableEq, Repr, Inhabited

namespace ModelError

/-- The text of an error. -/
def message : ModelError → String
  | .shapeNotFound id suggestions =>
    "Shape not found: '" ++ id.toText ++ "'" ++
      match suggestions with
      | [] => ""
      | first :: _ => ". Did you mean: " ++ first.candidate ++ "?"
  | .notAnOperation id => "Shape '" ++ id.toText ++ "' is not a operation"
  | .invalidShapeId text => "Invalid shape id: " ++ text
  | .duplicateShape id => "Duplicate shape: " ++ id.toText

end ModelError

/-- The id that a text stands for, or the error that it stands for none. -/
def ShapeId.parse (text : String) : Except ModelError ShapeId :=
  match ShapeId.ofText? text with
  | some id => .ok id
  | none => .error (.invalidShapeId text)

end ServiceShapes
