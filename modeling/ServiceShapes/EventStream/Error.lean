import ServiceShapes.EventStream.Signing

/-!
# Errors of event streams

What can go wrong on an event stream, with the texts of the errors.
-/

namespace ServiceShapes

/-- What went wrong on an event stream. -/
inductive StreamError
  /-- The other end is gone. -/
  | closed
  /-- A message is no event. -/
  | unmarshalling (reason : String)
  /-- A message cannot be signed. -/
  | signing (cause : SigningError)
deriving DecidableEq, Repr, Inhabited

namespace StreamError

/-- The text of an error. -/
def message : StreamError → String
  | .closed => "Event stream closed"
  | .unmarshalling reason => "Failed to unmarshall event: " ++ reason
  | .signing cause => "Failed to sign event: " ++ cause.message

/-- The error behind an error. -/
def cause? : StreamError → Option SigningError
  | .signing cause => some cause
  | _ => none

end StreamError

end ServiceShapes
