import ServiceShapes.Generation.Error
import ServiceShapes.Model.Streams

/-!
# Generation targets and channels

Code is generated for one side of the wire.  Which end of a channel an event stream becomes depends
on the target and on the side of the operation alone: clients send the input of an operation and
receive its output, servers the other way round (`channelEnd`).
-/

namespace ServiceShapes

/-- Which side of the wire the generated code runs on. -/
inductive Target
  | client
  | server
deriving DecidableEq, Repr, Inhabited

namespace Target

/-- The names of targets, in the order in which messages list them. -/
def names : List (String × Target) := [("client", .client), ("server", .server)]

/-- The name of a target. -/
def name : Target → String
  | .client => "client"
  | .server => "server"

/-- The target with this name, in any mixture of cases.  Only ASCII letters have a lower-case form
that occurs in a name, so no others need to be folded. -/
def parse (text : String) : Generated Target :=
  match names.lookup (String.ofList (text.toList.map Char.toLower)) with
  | some target => .ok target
  | none => .error (.unknownTarget text)

end Target

/-- The two ends of a channel. -/
inductive ChannelEnd
  | sender
  | receiver
deriving DecidableEq, Repr, Inhabited

/-- The end of the channel that code for a target holds for one side of an operation. -/
def channelEnd : OperationSide → Target → ChannelEnd
  | .input, .client | .output, .server => .sender
  | .input, .server | .output, .client => .receiver

end ServiceShapes
