import ServiceShapes.EventStream.Message
import ServiceShapes.PropertyBag.Basic

/-!
# Signing messages

A `Signer` signs the messages of one event stream, one after another.  It may keep something from
one message to the next, and it may look at the properties of the request.
-/

namespace ServiceShapes

/-- Why a message cannot be signed. -/
inductive SigningError
  | missingProperty (name : String)
  | failed (reason : String)
deriving DecidableEq, Repr, Inhabited

/-- The text of an error. -/
def SigningError.message : SigningError → String
  | .missingProperty name => "Missing signing property: " ++ name
  | .failed reason => "Signing failed: " ++ reason

/-- A signer that keeps a value of type `σ` between messages and looks at properties of type
`π`. -/
structure Signer (π σ : Type) where
  sign : π → Message → StateT σ (Except SigningError) Message
  /-- Signs the empty message at the end of the stream, if there is one. -/
  signEnd? : Option (π → StateT σ (Except SigningError) Message) := none

/-- The signer that returns every message unchanged. -/
def Signer.noOp (π : Type) : Signer π Unit where
  sign _ message := pure message

end ServiceShapes
