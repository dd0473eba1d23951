import Mathlib.Algebra.Order.Group.Multiset
import Mathlib.Data.List.Duplicate
import Mathlib.Tactic.Abel
import ServiceShapes.Proofs.Channels.Runs

/-!
# Conservation of items

Channels neither lose nor duplicate nor reorder items.  What one step does to the items is a `Flow`:
a send that starts is under way afterwards unless it completes, the buffer takes accepted items at
its end and gives delivered ones from its front, and nothing goes through it once the reading half
is gone.  Every step of a sound state is a flow and leads to a sound state (`Step.keeps`), and only
cloning and dropping change how many handles there are (`Step.handles`).

Summed up over a run, what was handed out and what is still buffered are the accepted items, in
order of completion, and the handles left are the first one and its clones without those that were
dropped (`Account`).  Together with what the steps answer this is all that a channel owes to those
who use it (`Run.faithful`).
-/

namespace ServiceShapes.Channel

variable {α : Type} {c d : Channel α} {event : Event α} {trace : List (Event α)}
variable {capacity ticket : Nat} {item : α}

/-! ### One step -/

/-- What a step does to the items. -/
structure Flow (c : Channel α) (event : Event α) (d : Channel α) : Prop where
  /-- Every send completes, is given up or stays under way. -/
  sends : (event.started ++ c.underWay.map Prod.snd).Perm
    (event.accepted ++ event.refused ++ event.cancelled ++ d.underWay.map Prod.snd)
  /-- The buffer is filled at its end and emptied from its front. -/
  through : ∀ after, d.buffer = some after →
    ∃ before, c.buffer = some before ∧ before ++ event.accepted = event.delivered ++ after
  /-- Without a reading half nothing goes through. -/
  still : d.buffer = none → event.accepted = [] ∧ event.delivered = []
  /-- The reading half goes when it is dropped, and for good. -/
  gone : d.buffer = none ↔ c.buffer = none ∨ event = .hangUp

/-- A step that leaves the buffer alone. -/
theorem Flow.of_buffer_eq (buffer : d.buffer = c.buffer)
    (idle : event.accepted = [] ∧ event.delivered = []) (stays : event ≠ .hangUp)
    (sends : (event.started ++ c.underWay.map Prod.snd).Perm
      (event.refused ++ event.cancelled ++ d.underWay.map Prod.snd)) : Flow c event d := by
  obtain ⟨noneAccepted, noneDelivered⟩ := idle
  constructor
  · rw [noneAccepted, List.nil_append]
    exact sends
  · intro after buffered
    refine ⟨after, buffer ▸ buffered, ?_⟩
    rw [noneAccepted, noneDelivered, List.append_nil, List.nil_append]
  · intro _
    exact ⟨noneAccepted, noneDelivered⟩
  · simp [buffer, stays]

/-- A step that puts an item into the buffer. -/
theorem Flow.of_accepted {items : List α} (before : c.buffer = some items)
    (after : d.buffer = some (items ++ [item]))
    (puts : event.accepted = [item] ∧ event.delivered = []) (stays : event ≠ .hangUp)
    (sends : (event.started ++ c.underWay.map Prod.snd).Perm
      (item :: (event.refused ++ event.cancelled ++ d.underWay.map Prod.snd))) :
    Flow c event d := by
  obtain ⟨accepted, noneDelivered⟩ := puts
  constructor
  · rw [accepted]
    exact sends
  · intro later buffered
    refine ⟨items, before, ?_⟩
    rw [after] at buffered
    rw [accepted, noneDelivered, List.nil_append]
    exact Option.some.inj buffered
  · intro gone
    rw [after] at gone
    cases gone
  · simp [before, after, stays]

theorem start_keeps (sound : c.Sound capacity) (item : α) :
    (c.start item).1.Sound capacity ∧
      Flow c (.start item (c.start item).2) (c.start item).1 := by
  rcases c.start_cases item with ⟨gone, started⟩ | ⟨items, buffered, room, started⟩ |
    ⟨items, buffered, started⟩
  · rw [started]
    exact ⟨sound, .of_buffer_eq rfl ⟨rfl, rfl⟩ (by simp) .rfl⟩
  · rw [started]
    refine ⟨sound.mono rfl (.refl _) (Nat.le_refl _) ?_,
      .of_accepted buffered rfl ⟨rfl, rfl⟩ (by simp) .rfl⟩
    rintro _ ⟨⟩
    rw [sound.capacity_eq] at room
    simp only [List.length_append, List.length_singleton]
    omega
  · rw [started]
    have underWay : ({ c with
        waiting := c.waiting ++ [(c.nextTicket, item)], nextTicket := c.nextTicket + 1 } :
        Channel α).underWay = c.underWay ++ [(c.nextTicket, item)] :=
      (List.append_assoc ..).symm
    refine ⟨⟨sound.capacity_eq, ?_, ?_, sound.fits⟩, .of_buffer_eq rfl ⟨rfl, rfl⟩ (by simp) ?_⟩
    · -- the ticket is new
      rw [underWay, List.map_append, List.nodup_append]
      refine ⟨sound.tickets, List.nodup_singleton _, ?_⟩
      intro old isOld new isNew same
      obtain ⟨send, mem, rfl⟩ := List.mem_map.1 isOld
      have issued := sound.issued send mem
      rw [List.map_singleton, List.mem_singleton] at isNew
      omega
    · intro send mem
      rw [underWay, List.mem_append, List.mem_singleton] at mem
      rcases mem with old | rfl
      · exact Nat.lt_succ_of_lt (sound.issued send old)
      · exact Nat.lt_succ_self _
    · rw [underWay, List.map_append]
      exact List.perm_append_comm

theorem poll_keeps (sound : c.Sound capacity) (sends : (ticket, item) ∈ c.underWay)
    {progress : SendProgress} (polled : c.poll? ticket = some (d, progress)) :
    d.Sound capacity ∧ Flow c (.poll ticket item progress) d := by
  have others := (sound.underWay_perm sends).map Prod.snd
  have fewer : (c.forget ticket).underWay.Sublist c.underWay := by
    rw [underWay_forget]
    exact List.filter_sublist
  rcases poll?_cases sound sends with ⟨gone, answer⟩ | ⟨items, buffered, granted, answer⟩ |
    ⟨alive, answer⟩
  · rw [answer] at polled
    cases polled
    refine ⟨sound.mono rfl fewer (Nat.le_refl _) ?_,
      .of_buffer_eq rfl ⟨rfl, rfl⟩ (by simp) others⟩
    intro items buffered
    rw [buffer_forget, gone] at buffered
    cases buffered
  · rw [answer] at polled
    cases polled
    refine ⟨sound.mono rfl fewer (Nat.le_refl _) ?_,
      .of_accepted buffered rfl ⟨rfl, rfl⟩ (by simp) others⟩
    -- the item takes the place that was kept for it
    have freed : (c.forget ticket).granted.length < c.granted.length := by
      have found := (List.lookup_eq_some_iff_mem sound.tickets_granted).2 granted
      exact length_granted_forget_lt (by rw [found]; rfl)
    have fits := sound.fits items buffered
    rintro _ ⟨⟩
    simp only [List.length_append, List.length_singleton]
    omega
  · rw [answer] at polled
    cases polled
    exact ⟨sound, .of_buffer_eq rfl ⟨rfl, rfl⟩ (by simp) .rfl⟩

theorem cancel_keeps (sound : c.Sound capacity) (sends : (ticket, item) ∈ c.underWay) :
    (c.cancel ticket).Sound capacity ∧ Flow c (.cancel ticket item) (c.cancel ticket) := by
  obtain ⟨buffer, capacity_eq, -, nextTicket, underWay, granted⟩ := c.cancel_spec ticket
  refine ⟨sound.mono capacity_eq ?_ (Nat.le_of_eq nextTicket.symm) ?_,
    .of_buffer_eq buffer ⟨rfl, rfl⟩ (by simp) ?_⟩
  · rw [underWay, underWay_forget]
    exact List.filter_sublist
  · intro items buffered
    have fits := sound.fits items (buffer ▸ buffered)
    omega
  · rw [underWay]
    exact (sound.underWay_perm sends).map Prod.snd

theorem read_keeps (sound : c.Sound capacity) {outcome : ReadOutcome α} (way : Reading)
    (given : c.read? = some (d, outcome)) : d.Sound capacity ∧ Flow c (.read way outcome) d := by
  rcases c.read?_cases with ⟨gone, answer⟩ | ⟨item, rest, buffered, answer⟩ | ⟨empty, answer⟩
  · rw [answer] at given
    cases given
  · rw [answer] at given
    cases given
    have remaining : ({ c with buffer := some rest } : Channel α).grantNext.buffer = some rest :=
      buffer_grantNext _
    refine ⟨sound.mono (by simp) ?_ (by simp) ?_, ?_, ?_, ?_, ?_⟩
    · rw [underWay_grantNext]
      exact .refl _
    · intro items same
      have fits := sound.fits _ buffered
      have filled : ({ c with buffer := some rest } : Channel α).grantNext.granted.length ≤
          c.granted.length + 1 := length_granted_grantNext_le _
      rw [List.length_cons] at fits
      cases remaining.symm.trans same
      omega
    · rw [underWay_grantNext]
      exact .rfl
    · intro after same
      cases remaining.symm.trans same
      exact ⟨item :: rest, buffered, List.append_nil _⟩
    · intro gone
      cases remaining.symm.trans gone
    · simp [buffered]
  · rw [answer] at given
    cases given
    have nothing : Event.delivered (.read way (if c.isAbandoned then .ended else .pending)) =
        ([] : List α) := by
      split <;> rfl
    exact ⟨sound, .of_buffer_eq rfl ⟨rfl, nothing⟩ (by simp) .rfl⟩

/-- **Every step keeps the state sound and the items in order.** -/
theorem Step.keeps (sound : c.Sound capacity) (step : Step c event d) :
    d.Sound capacity ∧ Flow c event d := by
  cases step with
  | clone alive =>
    exact ⟨sound.mono rfl (.refl _) (Nat.le_refl _) sound.fits,
      .of_buffer_eq rfl ⟨rfl, rfl⟩ (by simp) .rfl⟩
  | drop alive =>
    exact ⟨sound.mono rfl (.refl _) (Nat.le_refl _) sound.fits,
      .of_buffer_eq rfl ⟨rfl, rfl⟩ (by simp) .rfl⟩
  | start item alive => exact start_keeps sound item
  | poll sends polled => exact poll_keeps sound sends polled
  | cancel sends => exact cancel_keeps sound sends
  | read way given => exact read_keeps sound way given
  | hangUp alive =>
    refine ⟨sound.mono rfl (.refl _) (Nat.le_refl _) ?_, .rfl, ?_, ?_, ?_⟩
    · rintro _ ⟨⟩
    · rintro _ ⟨⟩
    · intro _
      exact ⟨rfl, rfl⟩
    · exact ⟨fun _ => .inr rfl, fun _ => rfl⟩

/-- **The handles left and those dropped are the ones there were and their clones.**  No other step
makes or takes a handle; a send keeps the channel open without being one. -/
theorem Step.handles (sound : c.Sound capacity) (step : Step c event d) :
    d.handles + drops [event] = c.handles + clones [event] := by
  cases step with
  | clone alive => rfl
  | drop alive =>
    show c.handles - 1 + 1 = c.handles
    omega
  | start item alive =>
    rcases c.start_cases item with ⟨-, started⟩ | ⟨_, -, -, started⟩ | ⟨_, -, started⟩
    all_goals
      rw [started]
      rfl
  | poll sends polled =>
    rcases poll?_cases sound sends with ⟨-, answer⟩ | ⟨_, -, -, answer⟩ | ⟨-, answer⟩
    all_goals
      rw [answer] at polled
      cases polled
      rfl
  | cancel sends =>
    obtain ⟨-, -, handles, -⟩ := c.cancel_spec _
    rw [handles]
    rfl
  | read way given =>
    rcases c.read?_cases with ⟨-, answer⟩ | ⟨item, rest, -, answer⟩ | ⟨-, answer⟩
    · rw [answer] at given
      cases given
    · rw [answer] at given
      cases given
      rw [handles_grantNext]
      rfl
    · rw [answer] at given
      cases given
      rfl
  | hangUp alive => rfl

/-! ### Whole runs -/

/-- What has happened to the handles and to the items up to now. -/
structure Account (capacity : Nat) (trace : List (Event α)) (c : Channel α) : Prop where
  sound : c.Sound capacity
  handles : c.handles + drops trace = clones trace + 1
  fates : (started trace).Perm
    (accepted trace ++ refused trace ++ cancelled trace ++ c.underWay.map Prod.snd)
  order : ∀ items, c.buffer = some items → delivered trace ++ items = accepted trace
  kept : delivered trace <+: accepted trace
  gone : c.buffer = none ↔ .hangUp ∈ trace

namespace Account

theorem new (created : create? capacity = some c) : Account capacity [] c := by
  unfold create? at created
  split at created
  · cases created
  · cases created
    refine ⟨⟨rfl, .nil, ?_, ?_⟩, rfl, .nil, ?_, List.nil_prefix, ?_⟩
    · intro send mem
      cases mem
    · rintro _ ⟨⟩
      exact Nat.zero_le _
    · rintro _ ⟨⟩
      rfl
    · simp

theorem handles_append (account : Account capacity trace c) (step : Step c event d) :
    d.handles + drops (trace ++ [event]) = clones (trace ++ [event]) + 1 := by
  have before := account.handles
  have now := step.handles account.sound
  simp only [clones, drops, List.countP_append] at before now ⊢
  omega

/-- The sends of a run and those of one more step, sorted by what became of them. -/
theorem fates_append (account : Account capacity trace c) (flow : Flow c event d) :
    (started (trace ++ [event])).Perm (accepted (trace ++ [event]) ++ refused (trace ++ [event]) ++
      cancelled (trace ++ [event]) ++ d.underWay.map Prod.snd) := by
  have before := Multiset.coe_eq_coe.2 account.fates
  have now := Multiset.coe_eq_coe.2 flow.sends
  rw [← Multiset.coe_eq_coe]
  simp only [started, accepted, refused, cancelled, List.flatMap_append, List.flatMap_singleton,
    ← Multiset.coe_add] at before now ⊢
  set A := (trace.flatMap Event.accepted : Multiset α)
  set R := (trace.flatMap Event.refused : Multiset α)
  set C := (trace.flatMap Event.cancelled : Multiset α)
  calc (trace.flatMap Event.started : Multiset α) + event.started
      = A + R + C + (event.started + c.underWay.map Prod.snd) := by rw [before]; abel
    _ = A + R + C +
        (event.accepted + event.refused + event.cancelled + d.underWay.map Prod.snd) := by rw [now]
    _ = A + event.accepted + (R + event.refused) + (C + event.cancelled) +
        d.underWay.map Prod.snd := by abel

/-- **One more step.** -/
theorem step (account : Account capacity trace c) (step : Step c event d) :
    Account capacity (trace ++ [event]) d := by
  obtain ⟨sound, flow⟩ := step.keeps account.sound
  have acceptedNow : accepted (trace ++ [event]) = accepted trace ++ event.accepted := by
    rw [accepted, List.flatMap_append, List.flatMap_singleton, accepted]
  have deliveredNow : delivered (trace ++ [event]) = delivered trace ++ event.delivered := by
    rw [delivered, List.flatMap_append, List.flatMap_singleton, delivered]
  have order : ∀ items, d.buffer = some items →
      delivered (trace ++ [event]) ++ items = accepted (trace ++ [event]) := by
    intro after buffered
    obtain ⟨before, earlier, through⟩ := flow.through after buffered
    calc delivered (trace ++ [event]) ++ after
        = delivered trace ++ (event.delivered ++ after) := by rw [deliveredNow, List.append_assoc]
      _ = (delivered trace ++ before) ++ event.accepted := by rw [← through, List.append_assoc]
      _ = accepted (trace ++ [event]) := by rw [account.order before earlier, acceptedNow]
  refine ⟨sound, account.handles_append step, account.fates_append flow, order, ?_, ?_⟩
  · cases buffered : d.buffer with
    | some items => exact ⟨items, order items buffered⟩
    | none =>
      obtain ⟨noneAccepted, noneDelivered⟩ := flow.still buffered
      rw [acceptedNow, deliveredNow, noneAccepted, noneDelivered, List.append_nil, List.append_nil]
      exact account.kept
  · rw [flow.gone, account.gone, List.mem_append, List.mem_singleton, eq_comm]

/-- **Any number of steps.** -/
theorem steps {before after : List (Event α)} (account : Account capacity before c)
    (steps : Steps c after d) : Account capacity (before ++ after) d := by
  induction steps generalizing before with
  | nil => rwa [List.append_nil]
  | cons first others ih =>
    rw [← List.singleton_append, ← List.append_assoc]
    exact ih (account.step first)

end Account

theorem Run.account (run : Run capacity trace c) : Account capacity trace c := by
  obtain ⟨new, created, steps⟩ := run
  exact (Account.new created).steps steps

/-- Sends whose items were handed out, refused ones and those given up are different sends. -/
theorem Account.apart (account : Account capacity trace c) :
    (delivered trace ++ refused trace ++ cancelled trace).Subperm (started trace) := by
  have handedOut : (delivered trace ++ refused trace ++ cancelled trace).Sublist
      (accepted trace ++ refused trace ++ cancelled trace) :=
    (account.kept.sublist.append_right _).append_right _
  exact (handedOut.trans (List.sublist_append_left _ _)).subperm.trans account.fates.symm.subperm

/-- An item of a send that was refused or given up is not handed out, unless it was sent again. -/
theorem Account.lost (account : Account capacity trace c) {item : α}
    (lost : item ∈ cancelled trace ∨ item ∈ refused trace)
    (once : ¬(started trace).Duplicate item) : item ∉ delivered trace := by
  classical
  intro handedOut
  have wasDelivered := List.count_pos_iff.2 handedOut
  have sends := account.apart.count_le item
  simp only [List.count_append] at sends
  rw [List.duplicate_iff_two_le_count] at once
  rcases lost with given | refused
  · have := List.count_pos_iff.2 given
    omega
  · have := List.count_pos_iff.2 refused
    omega

/-- Nothing goes through a channel without a reading half. -/
theorem Steps.still (sound : c.Sound capacity) (gone : c.buffer = none) (steps : Steps c trace d) :
    accepted trace = [] ∧ delivered trace = [] := by
  induction steps with
  | nil => exact ⟨rfl, rfl⟩
  | cons first others ih =>
    obtain ⟨soundNext, flow⟩ := first.keeps sound
    have goneNext := flow.gone.2 (.inl gone)
    obtain ⟨noneAccepted, noneDelivered⟩ := flow.still goneNext
    obtain ⟨noneAcceptedLater, noneDeliveredLater⟩ := ih soundNext goneNext
    constructor
    · rw [accepted, List.flatMap_cons, noneAccepted]
      exact noneAcceptedLater
    · rw [delivered, List.flatMap_cons, noneDelivered]
      exact noneDeliveredLater

/-- After the reading half has been dropped, no item is accepted or handed out. -/
theorem Run.silent {before after : List (Event α)}
    (run : Run capacity (before ++ .hangUp :: after) c) :
    accepted after = [] ∧ delivered after = [] := by
  obtain ⟨new, created, steps⟩ := run
  rw [← List.singleton_append, ← List.append_assoc, steps_append] at steps
  obtain ⟨d, earlier, later⟩ := steps
  have account := (Account.new created).steps earlier
  exact later.still account.sound (account.gone.2 (by simp))

/-! ### Answers -/

/-- A send finds the channel closed exactly if the reading half is gone. -/
theorem Step.progress_eq_closed_iff (sound : c.Sound capacity) (step : Step c event d)
    {progress : SendProgress} (sends : event.progress? = some progress) :
    progress = .closed ↔ c.buffer = none := by
  cases step with
  | start item alive =>
    cases sends
    rcases c.start_cases item with ⟨gone, started⟩ | ⟨items, buffered, -, started⟩ |
      ⟨items, buffered, started⟩
    · simp [started, gone]
    · simp [started, buffered]
    · simp [started, buffered]
  | poll mem polled =>
    cases sends
    rcases poll?_cases sound mem with ⟨gone, answer⟩ | ⟨items, buffered, -, answer⟩ |
      ⟨alive, answer⟩
    · rw [answer] at polled
      cases polled
      simp [gone]
    · rw [answer] at polled
      cases polled
      simp [buffered]
    · rw [answer] at polled
      cases polled
      simp [alive]
  | clone alive => cases sends
  | drop alive => cases sends
  | cancel mem => cases sends
  | read way given => cases sends
  | hangUp alive => cases sends

theorem Step.buffer_of_read {way : Reading} {outcome : ReadOutcome α}
    (step : Step c (.read way outcome) d) : ∃ items, c.buffer = some items := by
  cases step with
  | read way given =>
    cases buffered : c.buffer with
    | none =>
      rw [read?, buffered] at given
      cases given
    | some items => exact ⟨items, rfl⟩

/-- Reading reports the end exactly if nobody is left who could send and nothing is buffered. -/
theorem Step.outcome_eq_ended_iff {way : Reading} {outcome : ReadOutcome α}
    (step : Step c (.read way outcome) d) :
    outcome = .ended ↔ c.handles = 0 ∧ c.underWay = [] ∧ c.buffer = some [] := by
  cases step with
  | read way given =>
    rcases c.read?_cases with ⟨gone, answer⟩ | ⟨item, rest, buffered, answer⟩ | ⟨empty, answer⟩
    · rw [answer] at given
      cases given
    · rw [answer] at given
      cases given
      simp [buffered]
    · rw [answer] at given
      cases given
      rw [ite_eq_left_iff, ← and_assoc, ← isAbandoned_iff]
      simp [empty]

/-! ### The whole account -/

/-- What a channel owes to those who use it, in every state `c` that it comes to by the events of
`trace`. -/
structure Faithful (capacity : Nat) (trace : List (Event α)) (c : Channel α) : Prop where
  /-- The handles left and those that were dropped are the first one and its clones. -/
  handles : c.handles + drops trace = clones trace + 1
  /-- While the reading half is alive, the items handed out and those buffered are the accepted
  ones, in order of completion. -/
  order : .hangUp ∉ trace → ∃ items, c.buffer = some items ∧
    delivered trace ++ items = accepted trace ∧ items.length ≤ capacity
  /-- After it has been dropped nothing is buffered, accepted or handed out. -/
  silent : ∀ before after, trace = before ++ .hangUp :: after →
    c.buffer = none ∧ accepted after = [] ∧ delivered after = []
  /-- What has been handed out are the items accepted first, also at the end. -/
  kept : delivered trace <+: accepted trace
  /-- Every send that has started was accepted, refused or given up, or is under way. -/
  fates : (started trace).Perm
    (accepted trace ++ refused trace ++ cancelled trace ++ c.underWay.map Prod.snd)
  /-- No send that was given up or refused is among those whose items were handed out. -/
  apart : (delivered trace ++ refused trace ++ cancelled trace).Subperm (started trace)
  /-- So an item of such a send is not handed out, unless it was sent twice. -/
  lost : ∀ item, item ∈ cancelled trace ∨ item ∈ refused trace →
    ¬(started trace).Duplicate item → item ∉ delivered trace
  /-- A send under way can be polled, and the reading half can be read while it is alive. -/
  answers : (∀ send ∈ c.underWay, ∃ result, c.poll? send.1 = some result) ∧
    (.hangUp ∉ trace → ∃ result, c.read? = some result)
  /-- A send finds the channel closed exactly after the reading half has been dropped. -/
  closed : ∀ event d progress, Step c event d → event.progress? = some progress →
    (progress = .closed ↔ .hangUp ∈ trace)
  /-- The end is reported exactly if no handle and no send is left and everything accepted has been
  handed out. -/
  ended : ∀ way outcome d, Step c (.read way outcome) d →
    (outcome = .ended ↔ c.handles = 0 ∧ c.underWay = [] ∧ delivered trace = accepted trace)

/-- **Channels neither lose nor duplicate nor reorder items**, whatever the order of the steps, and
there is a channel of every capacity but zero.  The account that every step keeps says where each item
is and how many handles are left; the answers of polls and reads follow from it, since they look at
nothing but the buffer, the sends under way and the number of handles. -/
theorem Run.faithful (capacity : Nat) :
    ((∃ c : Channel α, Run capacity [] c) ↔ 0 < capacity) ∧
      ∀ trace (c : Channel α), Run capacity trace c → Faithful capacity trace c := by
  refine ⟨exists_run_nil_iff, fun trace c run => ?_⟩
  have account := run.account
  constructor
  case handles => exact account.handles
  case order =>
    intro alive
    cases buffered : c.buffer with
    | none => exact absurd (account.gone.1 buffered) alive
    | some items =>
      have fits := account.sound.fits items buffered
      exact ⟨items, rfl, account.order items buffered, by omega⟩
  case silent =>
    rintro before after rfl
    exact ⟨account.gone.2 (by simp), run.silent⟩
  case kept => exact account.kept
  case fates => exact account.fates
  case apart => exact account.apart
  case lost => exact fun item => account.lost
  case answers =>
    constructor
    · rintro ⟨ticket, item⟩ mem
      rcases poll?_cases account.sound mem with ⟨-, answer⟩ | ⟨_, -, -, answer⟩ | ⟨-, answer⟩
      · exact ⟨_, answer⟩
      · exact ⟨_, answer⟩
      · exact ⟨_, answer⟩
    · intro alive
      rcases c.read?_cases with ⟨gone, -⟩ | ⟨_, _, -, answer⟩ | ⟨-, answer⟩
      · exact absurd (account.gone.1 gone) alive
      · exact ⟨_, answer⟩
      · exact ⟨_, answer⟩
  case closed =>
    intro event d progress step sends
    rw [step.progress_eq_closed_iff account.sound sends, account.gone]
  case ended =>
    intro way outcome d step
    obtain ⟨items, buffered⟩ := step.buffer_of_read
    have order := account.order items buffered
    rw [step.outcome_eq_ended_iff, buffered, ← order]
    simp

/-- A run on a channel for a single item: of two sends that wait, the one that has got the place is
given up, and the place goes to the other. -/
theorem faithful_handedOver :
    Faithful 1
      [.start 1 .accepted, .clone, .start 2 (.pending 0), .start 3 (.pending 1),
        .read .method (.item 1), .cancel 0 2, .poll 1 3 .accepted, .read .stream (.item 3),
        .read .method .pending, .drop, .hangUp, .start 4 .closed]
      (⟨1, none, [], [], 1, 2⟩ : Channel Nat) := by
  refine (Run.faithful 1).2 _ _ ⟨⟨1, some [], [], [], 1, 0⟩, rfl, ?_⟩
  exact .cons (.start 1 (by decide)) <| .cons (.clone (by decide)) <|
    .cons (.start 2 (by decide)) <| .cons (.start 3 (by decide)) <| .cons (.read .method rfl) <|
    .cons (.cancel (by decide)) <| .cons (.poll (by decide) rfl) <| .cons (.read .stream rfl) <|
    .cons (.read .method rfl) <| .cons (.drop (by decide)) <| .cons (.hangUp (by decide)) <|
    .cons (.start 4 (by decide)) .nil

end ServiceShapes.Channel
