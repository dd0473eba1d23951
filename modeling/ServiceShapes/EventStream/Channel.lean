import ServiceShapes.EventStream.Error

/-!
# Event stream channels

A channel passes items from any number of sending handles to one reading half, first in, first out,
through a buffer of fixed capacity.

Sending takes several steps.  `start` puts an item into the buffer if there is room; otherwise the
send waits and gets a ticket.  Reading an item frees a place, which is kept for the send that has
waited longest; that send completes when it is polled next, or gives the place up when it is
cancelled.  A send under way keeps the channel open, like a handle.

Reading gives the items of the buffer one by one, and the end of the stream once the buffer is empty
and nobody is left who could fill it.  When the reading half hangs up, what is in the buffer is
lost, and all sends, new ones and those under way, find the channel closed.
-/

namespace ServiceShapes

/-- A channel for items of type `α`. -/
structure Channel (α : Type) where
  /-- How many items the buffer may hold, counting the places kept for sends. -/
  capacity : Nat
  /-- The items sent but not read yet; none after the reading half has hung up. -/
  buffer : Option (List α)
  /-- The sends for which a place is kept, by their tickets, with their items. -/
  granted : List (Nat × α)
  /-- The sends that wait for a place, in the order in which they were started. -/
  waiting : List (Nat × α)
  /-- How many sending handles there are. -/
  handles : Nat
  /-- The ticket of the next send that has to wait. -/
  nextTicket : Nat
deriving DecidableEq, Repr, Inhabited

/-- How far a send has come. -/
inductive SendProgress
  /-- The item is in the buffer. -/
  | accepted
  /-- The send waits for a place. -/
  | pending (ticket : Nat)
  /-- The reading half has hung up. -/
  | closed
deriving DecidableEq, Repr, Inhabited

/-- What a read gives. -/
inductive ReadOutcome (α : Type)
  | item (value : α)
  /-- There is nothing to read yet. -/
  | pending
  /-- There will be nothing to read any more. -/
  | ended
deriving DecidableEq, Repr, Inhabited

namespace Channel

variable {α : Type}

/-- An empty channel with one sending handle; there is none without any capacity. -/
def create? (capacity : Nat) : Option (Channel α) :=
  if capacity = 0 then none
  else some ⟨capacity, some [], [], [], 1, 0⟩

/-- Whether the reading half has hung up. -/
def isClosed (c : Channel α) : Bool := c.buffer.isNone

/-- Whether a new send completes at once, given the items in the buffer. -/
def hasRoom (c : Channel α) (items : List α) : Bool :=
  c.waiting.isEmpty && items.length + c.granted.length < c.capacity

/-- Keeps a free place for the send that has waited longest. -/
def grantNext (c : Channel α) : Channel α :=
  match c.waiting with
  | [] => c
  | send :: rest => { c with granted := c.granted ++ [send], waiting := rest }

/-- Forgets a send under way. -/
def forget (c : Channel α) (ticket : Nat) : Channel α :=
  { c with
    granted := c.granted.filter (·.1 ≠ ticket)
    waiting := c.waiting.filter (·.1 ≠ ticket) }

/-! ### Sending -/

/-- Starts to send an item. -/
def start (c : Channel α) (item : α) : Channel α × SendProgress :=
  match c.buffer with
  | none => (c, .closed)
  | some items =>
    if c.hasRoom items then ({ c with buffer := some (items ++ [item]) }, .accepted)
    else
      ({ c with waiting := c.waiting ++ [(c.nextTicket, item)], nextTicket := c.nextTicket + 1 },
        .pending c.nextTicket)

/-- Looks whether a send can be completed; `none` if no such send is under way. -/
def poll? (c : Channel α) (ticket : Nat) : Option (Channel α × SendProgress) :=
  match c.granted.lookup ticket, c.waiting.lookup ticket, c.buffer with
  | none, none, _ => none
  | some item, _, some items =>
    some ({ c.forget ticket with buffer := some (items ++ [item]) }, .accepted)
  | none, some _, some _ => some (c, .pending ticket)
  | _, _, none => some (c.forget ticket, .closed)

/-- Gives a send under way up.  A place that was kept for it goes to the next send. -/
def cancel (c : Channel α) (ticket : Nat) : Channel α :=
  if (c.granted.lookup ticket).isSome then (c.forget ticket).grantNext else c.forget ticket

/-- Sends an item if that can be done at once. -/
def trySend (c : Channel α) (item : α) : Channel α × SendProgress :=
  match c.start item with
  | (c, .pending ticket) => (c.cancel ticket, .pending ticket)
  | result => result

/-- Makes one more sending handle. -/
def addHandle (c : Channel α) : Channel α := { c with handles := c.handles + 1 }

/-- Drops a sending handle. -/
def dropHandle (c : Channel α) : Channel α := { c with handles := c.handles - 1 }

/-! ### Reading -/

/-- Whether nobody is left who could send. -/
def isAbandoned (c : Channel α) : Bool :=
  c.handles == 0 && c.granted.isEmpty && c.waiting.isEmpty

/-- Reads an item; `none` if the reading half is gone. -/
def read? (c : Channel α) : Option (Channel α × ReadOutcome α) :=
  match c.buffer with
  | none => none
  | some (item :: rest) => some ({ c with buffer := some rest }.grantNext, .item item)
  | some [] => some (c, if c.isAbandoned then .ended else .pending)

/-- Drops the reading half with everything in the buffer. -/
def hangUp (c : Channel α) : Channel α := { c with buffer := none }

end Channel

/-! ### The two kinds of channel -/

/-- A channel on which user code sends events and the transport reads them. -/
abbrev OutgoingChannel (α : Type) := Channel α

/-- A channel through which the transport hands events, or the error that ended the stream, to user
code. -/
abbrev IncomingChannel (α : Type) := Channel (Except StreamError α)

namespace Channel

variable {α : Type}

/-- Hands an event to user code if that can be done at once. -/
def tryDeliver (c : IncomingChannel α) (event : α) : IncomingChannel α × SendProgress :=
  c.trySend (.ok event)

/-- Hands an error to user code if that can be done at once. -/
def tryFail (c : IncomingChannel α) (error : StreamError) : IncomingChannel α × SendProgress :=
  c.trySend (.error error)

end Channel

end ServiceShapes
