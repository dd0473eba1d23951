import ServiceShapes.Proofs.Channels.Sends

/-!
# Runs of a channel

An `Event` is one thing that happens on a channel, with what came of it.  `Step` says which events a
state allows and what they lead to; several of them in a row are `Steps`, and a `Run` is what can
happen on a new channel.  Steps of different handles and of the reading half come in any order, so
all their interleavings are runs.

A handle can be cloned, dropped and used to send while there is one.  A send can be polled and given
up while it is under way.  The reading half can be read, in either of two ways, and dropped once.
On an incoming channel a delivery is the send of an event and a failure that of an error.
-/

namespace ServiceShapes.Channel

variable {α : Type}

/-- The two ways to read: by the method that waits, and as a stream. -/
inductive Reading
  | method
  | stream
deriving DecidableEq, Repr

/-- Something that happens on a channel. -/
inductive Event (α : Type)
  /-- A sending handle is cloned. -/
  | clone
  /-- A sending handle is dropped. -/
  | drop
  /-- A send starts and gets this far. -/
  | start (item : α) (progress : SendProgress)
  /-- A send under way is polled and gets this far. -/
  | poll (ticket : Nat) (item : α) (progress : SendProgress)
  /-- A send under way is given up. -/
  | cancel (ticket : Nat) (item : α)
  /-- The reading half is read. -/
  | read (way : Reading) (outcome : ReadOutcome α)
  /-- The reading half is dropped. -/
  | hangUp
deriving DecidableEq, Repr

/-- What can happen in a state, and the state after it. -/
inductive Step : Channel α → Event α → Channel α → Prop
  | clone {c} (alive : 0 < c.handles) : Step c .clone c.addHandle
  | drop {c} (alive : 0 < c.handles) : Step c .drop c.dropHandle
  | start {c} (item : α) (alive : 0 < c.handles) :
      Step c (.start item (c.start item).2) (c.start item).1
  | poll {c d ticket item progress} (sends : (ticket, item) ∈ c.underWay)
      (polled : c.poll? ticket = some (d, progress)) : Step c (.poll ticket item progress) d
  | cancel {c ticket item} (sends : (ticket, item) ∈ c.underWay) :
      Step c (.cancel ticket item) (c.cancel ticket)
  | read {c d outcome} (way : Reading) (given : c.read? = some (d, outcome)) :
      Step c (.read way outcome) d
  | hangUp {c} (alive : c.buffer ≠ none) : Step c .hangUp c.hangUp

/-- Events one after another. -/
inductive Steps : Channel α → List (Event α) → Channel α → Prop
  | nil {c} : Steps c [] c
  | cons {c d e event trace} (first : Step c event d) (others : Steps d trace e) :
      Steps c (event :: trace) e

/-- What can happen from the creation of a channel on. -/
def Run (capacity : Nat) (trace : List (Event α)) (c : Channel α) : Prop :=
  ∃ new, create? capacity = some new ∧ Steps new trace c

/-- There is a channel for every capacity but zero. -/
theorem exists_run_nil_iff {capacity : Nat} : (∃ c : Channel α, Run capacity [] c) ↔ 0 < capacity := by
  constructor
  · rintro ⟨c, new, created, -⟩
    unfold create? at created
    split at created
    · cases created
    · exact Nat.pos_of_ne_zero ‹_›
  · intro positive
    exact ⟨_, _, if_neg (Nat.ne_of_gt positive), .nil⟩

theorem steps_append {c e : Channel α} {before after : List (Event α)} :
    Steps c (before ++ after) e ↔ ∃ d, Steps c before d ∧ Steps d after e := by
  induction before generalizing c with
  | nil =>
    constructor
    · intro steps
      exact ⟨c, .nil, steps⟩
    · rintro ⟨_, ⟨⟩, steps⟩
      exact steps
  | cons event before ih =>
    constructor
    · rintro (_ | ⟨first, others⟩)
      obtain ⟨d, left, right⟩ := ih.1 others
      exact ⟨d, .cons first left, right⟩
    · rintro ⟨d, _ | ⟨first, left⟩, right⟩
      exact .cons first (ih.2 ⟨d, left, right⟩)

/-- A run can be continued. -/
theorem Run.steps {capacity : Nat} {c d : Channel α} {before after : List (Event α)}
    (run : Run capacity before c) (steps : Steps c after d) : Run capacity (before ++ after) d := by
  obtain ⟨new, created, earlier⟩ := run
  exact ⟨new, created, steps_append.2 ⟨c, earlier, steps⟩⟩

/-- Sending at once takes one step, or two: a send that would have to wait is given up. -/
theorem steps_trySend {c : Channel α} (item : α) (alive : 0 < c.handles) :
    Steps c [.start item (c.trySend item).2] (c.trySend item).1 ∨
      ∃ ticket,
        Steps c [.start item (.pending ticket), .cancel ticket item] (c.trySend item).1 := by
  have first := Step.start item alive
  unfold trySend
  rcases c.start_cases item with ⟨-, started⟩ | ⟨_, -, -, started⟩ | ⟨_, -, started⟩
  · rw [started] at first ⊢
    exact .inl (.cons first .nil)
  · rw [started] at first ⊢
    exact .inl (.cons first .nil)
  · rw [started] at first ⊢
    have waits : (c.nextTicket, item) ∈ c.granted ++ (c.waiting ++ [(c.nextTicket, item)]) := by
      simp
    exact .inr ⟨c.nextTicket, .cons first (.cons (.cancel waits) .nil)⟩

/-! ### What a trace says about the handles and the items -/

namespace Event

/-- Whether there is one more handle afterwards. -/
def isClone : Event α → Bool
  | clone => true
  | _ => false

/-- Whether there is one handle less afterwards. -/
def isDrop : Event α → Bool
  | drop => true
  | _ => false

/-- The item of a send that starts. -/
def started : Event α → List α
  | start item _ => [item]
  | _ => []

/-- The item of a send that completes with success. -/
def accepted : Event α → List α
  | start item .accepted => [item]
  | poll _ item .accepted => [item]
  | _ => []

/-- The item of a send that completes because the channel is closed. -/
def refused : Event α → List α
  | start item .closed => [item]
  | poll _ item .closed => [item]
  | _ => []

/-- The item of a send that is given up. -/
def cancelled : Event α → List α
  | cancel _ item => [item]
  | _ => []

/-- The item that is handed out. -/
def delivered : Event α → List α
  | read _ (.item item) => [item]
  | _ => []

/-- How far a send has come by a step. -/
def progress? : Event α → Option SendProgress
  | start _ progress => some progress
  | poll _ _ progress => some progress
  | _ => none

end Event

/-- How often a handle was cloned. -/
def clones (trace : List (Event α)) : Nat := trace.countP Event.isClone

/-- How often a handle was dropped. -/
def drops (trace : List (Event α)) : Nat := trace.countP Event.isDrop

/-- The items of all sends, in the order in which they start. -/
def started (trace : List (Event α)) : List α := trace.flatMap Event.started

/-- The items whose sends completed with success, in order of completion. -/
def accepted (trace : List (Event α)) : List α := trace.flatMap Event.accepted

/-- The items whose sends found the channel closed. -/
def refused (trace : List (Event α)) : List α := trace.flatMap Event.refused

/-- The items whose sends were given up. -/
def cancelled (trace : List (Event α)) : List α := trace.flatMap Event.cancelled

/-- The items handed out, in order. -/
def delivered (trace : List (Event α)) : List α := trace.flatMap Event.delivered

end ServiceShapes.Channel
