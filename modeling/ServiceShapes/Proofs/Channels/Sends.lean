import ServiceShapes.EventStream.Channel
import ServiceShapes.Proofs.KeyedLists

/-!
# Sends under way

A send that has started and is neither completed nor given up is under way (`Channel.underWay`): it
waits, or a place is kept for it.  A state of a channel is sound (`Channel.Sound`) if every send has
a ticket of its own, and the items in the buffer fit in together with the places kept.

For each operation there is one lemma that says everything it can do to a sound state.
-/

namespace ServiceShapes.Channel

variable {α : Type} {c : Channel α} {capacity ticket : Nat} {item : α}

/-! ### The sends under way -/

/-- The sends under way: those for which a place is kept, then those that wait. -/
def underWay (c : Channel α) : List (Nat × α) := c.granted ++ c.waiting

/-- Every send under way has a ticket of its own, which has been given out, and the items in the
buffer and the places kept do not exceed the capacity. -/
structure Sound (capacity : Nat) (c : Channel α) : Prop where
  capacity_eq : c.capacity = capacity
  tickets : (c.underWay.map Prod.fst).Nodup
  issued : ∀ send ∈ c.underWay, send.1 < c.nextTicket
  fits : ∀ items, c.buffer = some items → items.length + c.granted.length ≤ capacity

@[simp] theorem buffer_forget (c : Channel α) (ticket : Nat) :
    (c.forget ticket).buffer = c.buffer := rfl

@[simp] theorem capacity_forget (c : Channel α) (ticket : Nat) :
    (c.forget ticket).capacity = c.capacity := rfl

@[simp] theorem nextTicket_forget (c : Channel α) (ticket : Nat) :
    (c.forget ticket).nextTicket = c.nextTicket := rfl

@[simp] theorem handles_forget (c : Channel α) (ticket : Nat) :
    (c.forget ticket).handles = c.handles := rfl

theorem underWay_forget (c : Channel α) (ticket : Nat) :
    (c.forget ticket).underWay = c.underWay.filter (·.1 ≠ ticket) :=
  (List.filter_append _ _).symm

@[simp] theorem buffer_grantNext (c : Channel α) : c.grantNext.buffer = c.buffer := by
  unfold grantNext
  split <;> rfl

@[simp] theorem capacity_grantNext (c : Channel α) : c.grantNext.capacity = c.capacity := by
  unfold grantNext
  split <;> rfl

@[simp] theorem nextTicket_grantNext (c : Channel α) :
    c.grantNext.nextTicket = c.nextTicket := by
  unfold grantNext
  split <;> rfl

@[simp] theorem handles_grantNext (c : Channel α) : c.grantNext.handles = c.handles := by
  unfold grantNext
  split <;> rfl

/-- A send that gets a place stays under way, in its place among the others. -/
@[simp] theorem underWay_grantNext (c : Channel α) : c.grantNext.underWay = c.underWay := by
  unfold grantNext underWay
  split
  · rfl
  · rename_i send rest waits
    show c.granted ++ [send] ++ rest = c.granted ++ c.waiting
    rw [waits, List.append_assoc, List.singleton_append]

theorem length_granted_grantNext_le (c : Channel α) :
    c.grantNext.granted.length ≤ c.granted.length + 1 := by
  unfold grantNext
  split
  · exact Nat.le_succ _
  · exact Nat.le_of_eq List.length_append

namespace Sound

theorem tickets_granted (sound : c.Sound capacity) : (c.granted.map Prod.fst).Nodup := by
  have all := sound.tickets
  rw [underWay, List.map_append] at all
  exact all.of_append_left

theorem tickets_waiting (sound : c.Sound capacity) : (c.waiting.map Prod.fst).Nodup := by
  have all := sound.tickets
  rw [underWay, List.map_append] at all
  exact all.of_append_right

/-- A forgotten send is the only one that is not under way any more. -/
theorem underWay_perm (sound : c.Sound capacity) (mem : (ticket, item) ∈ c.underWay) :
    (c.underWay).Perm ((ticket, item) :: (c.forget ticket).underWay) := by
  rw [underWay_forget]
  exact List.perm_cons_filter_key sound.tickets mem

/-- Soundness depends only on the sends under way, on the tickets given out and on the room. -/
theorem mono (sound : c.Sound capacity) {d : Channel α} (same : d.capacity = c.capacity)
    (fewer : d.underWay.Sublist c.underWay) (later : c.nextTicket ≤ d.nextTicket)
    (fits : ∀ items, d.buffer = some items → items.length + d.granted.length ≤ capacity) :
    d.Sound capacity where
  capacity_eq := same.trans sound.capacity_eq
  tickets := sound.tickets.sublist (fewer.map _)
  issued send mem := Nat.lt_of_lt_of_le (sound.issued send (fewer.subset mem)) later
  fits := fits

end Sound

/-! ### What the operations do -/

/-- **Starting to send.** -/
theorem start_cases (c : Channel α) (item : α) :
    (c.buffer = none ∧ c.start item = (c, .closed)) ∨
    (∃ items, c.buffer = some items ∧ items.length + c.granted.length < c.capacity ∧
      c.start item = ({ c with buffer := some (items ++ [item]) }, .accepted)) ∨
    (∃ items, c.buffer = some items ∧
      c.start item = ({ c with
        waiting := c.waiting ++ [(c.nextTicket, item)], nextTicket := c.nextTicket + 1 },
        .pending c.nextTicket)) := by
  unfold start
  cases c.buffer with
  | none => exact .inl ⟨rfl, rfl⟩
  | some items =>
    by_cases room : c.hasRoom items = true
    · have place : items.length + c.granted.length < c.capacity := by
        rw [hasRoom, Bool.and_eq_true, decide_eq_true_eq] at room
        exact room.2
      exact .inr (.inl ⟨items, rfl, place, by simp only [if_pos room]⟩)
    · exact .inr (.inr ⟨items, rfl, by simp only [if_neg room]⟩)

/-- **Polling a send under way**, which always gives an answer. -/
theorem poll?_cases (sound : c.Sound capacity) (mem : (ticket, item) ∈ c.underWay) :
    (c.buffer = none ∧ c.poll? ticket = some (c.forget ticket, .closed)) ∨
    (∃ items, c.buffer = some items ∧ (ticket, item) ∈ c.granted ∧
      c.poll? ticket =
        some ({ c.forget ticket with buffer := some (items ++ [item]) }, .accepted)) ∨
    (c.buffer ≠ none ∧ c.poll? ticket = some (c, .pending ticket)) := by
  unfold poll?
  cases kept : c.granted.lookup ticket with
  | some other =>
    have granted : (ticket, other) ∈ c.granted :=
      (List.lookup_eq_some_iff_mem sound.tickets_granted).1 kept
    have same : other = item := by
      have found := (List.lookup_eq_some_iff_mem sound.tickets).2 mem
      have here := (List.lookup_eq_some_iff_mem sound.tickets).2
        (List.mem_append_left c.waiting granted)
      exact Option.some.inj (here.symm.trans found)
    subst same
    cases c.buffer with
    | none => exact .inl ⟨rfl, rfl⟩
    | some items => exact .inr (.inl ⟨items, rfl, granted, rfl⟩)
  | none =>
    have waits : (ticket, item) ∈ c.waiting := by
      rcases List.mem_append.1 mem with granted | waits
      · rw [(List.lookup_eq_some_iff_mem sound.tickets_granted).2 granted] at kept
        cases kept
      · exact waits
    rw [(List.lookup_eq_some_iff_mem sound.tickets_waiting).2 waits]
    cases c.buffer with
    | none => exact .inl ⟨rfl, rfl⟩
    | some items => exact .inr (.inr ⟨Option.some_ne_none items, rfl⟩)

/-- A place that was kept for a forgotten send is free. -/
theorem length_granted_forget_lt (kept : (c.granted.lookup ticket).isSome = true) :
    (c.forget ticket).granted.length < c.granted.length := by
  obtain ⟨item, found⟩ := Option.isSome_iff_exists.1 kept
  exact List.length_filter_lt_length_iff_exists.2
    ⟨(ticket, item), List.mem_of_lookup found, by simp⟩

/-- **Giving a send up** changes nothing but the sends under way. -/
theorem cancel_spec (c : Channel α) (ticket : Nat) :
    (c.cancel ticket).buffer = c.buffer ∧ (c.cancel ticket).capacity = c.capacity ∧
      (c.cancel ticket).handles = c.handles ∧ (c.cancel ticket).nextTicket = c.nextTicket ∧
      (c.cancel ticket).underWay = (c.forget ticket).underWay ∧
      (c.cancel ticket).granted.length ≤ c.granted.length := by
  unfold cancel
  split
  · rename_i kept
    have freed := length_granted_forget_lt kept
    have filled := length_granted_grantNext_le (c.forget ticket)
    refine ⟨by simp, by simp, by simp, by simp, by simp, ?_⟩
    omega
  · exact ⟨rfl, rfl, rfl, rfl, rfl, List.length_filter_le ..⟩

/-- **Reading.** -/
theorem read?_cases (c : Channel α) :
    (c.buffer = none ∧ c.read? = none) ∨
    (∃ item rest, c.buffer = some (item :: rest) ∧
      c.read? = some ({ c with buffer := some rest }.grantNext, .item item)) ∨
    (c.buffer = some [] ∧
      c.read? = some (c, if c.isAbandoned then .ended else .pending)) := by
  unfold read?
  cases c.buffer with
  | none => exact .inl ⟨rfl, rfl⟩
  | some items =>
    cases items with
    | nil => exact .inr (.inr ⟨rfl, rfl⟩)
    | cons item rest => exact .inr (.inl ⟨item, rest, rfl, rfl⟩)

theorem isAbandoned_iff : c.isAbandoned = true ↔ c.handles = 0 ∧ c.underWay = [] := by
  rw [isAbandoned, underWay]
  simp [and_assoc]

end ServiceShapes.Channel
