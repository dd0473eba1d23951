/-!
# Event stream messages

A message is a payload with headers.  Headers keep their order, and several may have one name:
`Message.header?` finds the first of them.
-/

namespace ServiceShapes

/-- The value of a header. -/
inductive HeaderValue
  | bool (value : Bool)
  | int32 (value : Int32)
  | int64 (value : Int64)
  | string (value : String)
  | bytes (value : List UInt8)
deriving DecidableEq, Repr, Inhabited

/-- A named value in front of a payload. -/
structure Header where
  name : String
  value : HeaderValue
deriving DecidableEq, Repr, Inhabited

/-- One message on an event stream. -/
structure Message where
  headers : List Header := []
  payload : List UInt8 := []
deriving DecidableEq, Repr, Inhabited

namespace Message

/-- The message without headers and with an empty payload. -/
def empty : Message := {}

/-- Adds a header behind the others. -/
def addHeader (m : Message) (header : Header) : Message :=
  { m with headers := m.headers ++ [header] }

/-- The value of the first header with a name. -/
def header? (m : Message) (name : String) : Option HeaderValue :=
  (m.headers.find? (·.name = name)).map (·.value)

end Message

end ServiceShapes
