import ServiceShapes.Proofs.Channels.Conservation

/-!
# Errors on incoming channels

The reading half of an incoming channel gives events and errors.  For the channel an error is an
item like any other: it takes its turn behind what was sent before it, and what is sent after it
follows.  So it depends on the sending handles alone whether an error is the last thing to be read.
It is, however the channel is read, exactly if no send completes with success after that of an error
has (`Run.errorEnds_iff`).  Another handle that still delivers breaks it
(`not_errorEnds_deliveredLate`).
-/

namespace ServiceShapes.Channel

variable {ε α : Type} {trace : List (Event (Except ε α))} {c d : Channel (Except ε α)}
variable {capacity : Nat}

/-- Once a read has given an error, later reads give nothing but the end, or nothing yet. -/
def ErrorEnds (trace : List (Event (Except ε α))) : Prop :=
  ∀ before way error after, trace = before ++ .read way (.item (.error error)) :: after →
    ∀ way outcome, .read way outcome ∈ after → outcome = .ended ∨ outcome = .pending

/-- No item follows an error. -/
def EndsAtError : List (Except ε α) → Prop
  | [] => True
  | .error _ :: items => items = []
  | .ok _ :: items => EndsAtError items

/-! ### What is read -/

theorem EndsAtError.of_prefix {items more : List (Except ε α)} (ends : EndsAtError more)
    (before : items <+: more) : EndsAtError items := by
  induction items generalizing more with
  | nil => trivial
  | cons item items ih =>
    obtain ⟨rest, rfl⟩ := before
    cases item with
    | error error => exact (List.append_eq_nil_iff.1 ends).1
    | ok event =>
      have later : EndsAtError (items ++ rest) := ends
      exact ih later (List.prefix_append items rest)

theorem delivered_eq_nil_iff : delivered trace = [] ↔
    ∀ way outcome, .read way outcome ∈ trace → outcome = .ended ∨ outcome = .pending := by
  rw [delivered, List.flatMap_eq_nil_iff]
  constructor
  · intro nothing way outcome mem
    cases outcome with
    | item value => exact absurd (nothing _ mem) (List.cons_ne_nil _ _)
    | pending => exact .inr rfl
    | ended => exact .inl rfl
  · intro reads event mem
    cases event with
    | read way outcome => rcases reads way outcome mem with rfl | rfl <;> rfl
    | _ => rfl

theorem errorEnds_cons {event : Event (Except ε α)} : ErrorEnds (event :: trace) ↔
    (∀ way error, event = .read way (.item (.error error)) → delivered trace = []) ∧
      ErrorEnds trace := by
  constructor
  · intro ends
    refine ⟨?_, ?_⟩
    · rintro way error rfl
      exact delivered_eq_nil_iff.2 (ends [] way error trace rfl)
    · rintro before way error after rfl
      exact ends (event :: before) way error after rfl
  · rintro ⟨first, ends⟩ before way error after split
    cases before with
    | nil =>
      obtain ⟨same, rfl⟩ := List.cons.inj split
      exact delivered_eq_nil_iff.1 (first way error same)
    | cons _ before =>
      obtain ⟨-, same⟩ := List.cons.inj split
      exact ends before way error after same

/-- **Reads stop at an error exactly if the items that are handed out do.** -/
theorem errorEnds_iff_delivered : ErrorEnds trace ↔ EndsAtError (delivered trace) := by
  induction trace with
  | nil => simp [ErrorEnds, delivered, EndsAtError]
  | cons event trace ih =>
    rw [errorEnds_cons, ih]
    -- an event that gives no error says nothing about the later ones
    have skip (noError : ∀ way error, event ≠ .read way (.item (.error error))) :
        ((∀ way error, event = .read way (.item (.error error)) → delivered trace = []) ∧
          EndsAtError (delivered trace)) ↔ EndsAtError (delivered trace) :=
      and_iff_right fun way error same => absurd same (noError way error)
    cases event with
    | read way outcome =>
      cases outcome with
      | item value =>
        cases value with
        | error error =>
          show _ ↔ delivered trace = []
          constructor
          · rintro ⟨nothing, -⟩
            exact nothing way error rfl
          · intro nothing
            refine ⟨fun _ _ _ => nothing, ?_⟩
            rw [nothing]
            trivial
        | ok event => exact skip (by rintro _ _ ⟨⟩)
      | pending => exact skip (by rintro _ _ ⟨⟩)
      | ended => exact skip (by rintro _ _ ⟨⟩)
    | _ => exact skip (by rintro _ _ ⟨⟩)

/-! ### Reading everything -/

/-- The event is a read. -/
def Event.IsRead {β : Type} : Event β → Prop
  | read _ _ => True
  | _ => False

/-- Everything that is buffered can be read. -/
theorem exists_reads {β : Type} {c : Channel β} {items : List β}
    (buffered : c.buffer = some items) :
    ∃ reads d, (∀ event ∈ reads, event.IsRead) ∧ Steps c reads d ∧ delivered reads = items := by
  induction items generalizing c with
  | nil => exact ⟨[], c, by simp, .nil, rfl⟩
  | cons item items ih =>
    have given : c.read? = some ({ c with buffer := some items }.grantNext, .item item) := by
      rw [read?, buffered]
    have remaining : ({ c with buffer := some items } : Channel β).grantNext.buffer = some items :=
      buffer_grantNext _
    obtain ⟨reads, d, onlyReads, steps, all⟩ := ih remaining
    refine ⟨.read .method (.item item) :: reads, d, ?_, .cons (.read .method given) steps, ?_⟩
    · intro event mem
      rcases List.mem_cons.1 mem with rfl | mem
      · trivial
      · exact onlyReads event mem
    · rw [delivered, List.flatMap_cons, ← delivered, all]
      rfl

/-- Reading lets no send complete. -/
theorem accepted_of_reads {β : Type} {reads : List (Event β)}
    (onlyReads : ∀ event ∈ reads, event.IsRead) : accepted reads = [] := by
  rw [accepted, List.flatMap_eq_nil_iff]
  intro event mem
  cases event with
  | read way outcome => rfl
  | _ => exact (onlyReads _ mem).elim

/-! ### Errors as ends -/

/-- If no send completes with success after that of an error has, no read gives anything after an
error. -/
theorem Run.errorEnds (run : Run capacity trace c) (ends : EndsAtError (accepted trace)) :
    ErrorEnds trace :=
  errorEnds_iff_delivered.2 (ends.of_prefix run.account.kept)

/-- **It depends on the sends alone whether errors end the stream.**  While the reading half is
alive, reading it can go on beyond an error exactly if a send has completed with success after that
of an error; and never otherwise. -/
theorem Run.errorEnds_iff (run : Run capacity trace c) :
    (EndsAtError (accepted trace) → ErrorEnds trace) ∧
    (.hangUp ∉ trace → ((∀ reads d, (∀ event ∈ reads, event.IsRead) → Steps c reads d →
      ErrorEnds (trace ++ reads)) ↔ EndsAtError (accepted trace))) := by
  refine ⟨run.errorEnds, ?_⟩
  intro alive
  constructor
  · intro always
    cases buffered : c.buffer with
    | none => exact absurd (run.account.gone.1 buffered) alive
    | some items =>
      obtain ⟨reads, d, onlyReads, steps, all⟩ := exists_reads buffered
      have ends := errorEnds_iff_delivered.1 (always reads d onlyReads steps)
      rw [delivered, List.flatMap_append, ← delivered, ← delivered, all,
        run.account.order items buffered] at ends
      exact ends
  · intro ends reads d onlyReads steps
    apply (run.steps steps).errorEnds
    rw [accepted, List.flatMap_append, ← accepted, ← accepted, accepted_of_reads onlyReads,
      List.append_nil]
    exact ends

/-- An event and an error are sent, and the only handle is dropped. -/
def endedByError : List (Event (Except StreamError String)) :=
  [.start (.ok "last") .accepted, .start (.error (.unmarshalling "bad")) .accepted, .drop,
    .read .stream (.item (.ok "last")), .read .method (.item (.error (.unmarshalling "bad")))]

/-- After this error the reader never gets anything. -/
theorem errorEnds_endedByError : ErrorEnds endedByError ∧
    ∀ reads d, (∀ event ∈ reads, event.IsRead) → Steps ⟨4, some [], [], [], 0, 0⟩ reads d →
      ErrorEnds (endedByError ++ reads) := by
  have run : Run 4 endedByError ⟨4, some [], [], [], 0, 0⟩ :=
    ⟨⟨4, some [], [], [], 1, 0⟩, rfl, .cons (.start _ (by decide)) <|
      .cons (.start _ (by decide)) <| .cons (.drop (by decide)) <| .cons (.read _ rfl) <|
      .cons (.read _ rfl) .nil⟩
  have ends : EndsAtError (accepted endedByError) := rfl
  exact ⟨run.errorEnds_iff.1 ends, (run.errorEnds_iff.2 (by decide)).2 ends⟩

/-- An error is sent by a handle, an event by another one, and the reader gets both. -/
def deliveredLate : List (Event (Except StreamError String)) :=
  [.clone, .start (.error (.unmarshalling "bad")) .accepted, .start (.ok "late") .accepted,
    .read .method (.item (.error (.unmarshalling "bad"))), .read .method (.item (.ok "late"))]

/-- **An error does not end the stream** while another handle delivers. -/
theorem not_errorEnds_deliveredLate :
    Run 4 deliveredLate ⟨4, some [], [], [], 2, 0⟩ ∧ ¬ErrorEnds deliveredLate := by
  constructor
  · exact ⟨⟨4, some [], [], [], 1, 0⟩, rfl, .cons (.clone (by decide)) <|
      .cons (.start _ (by decide)) <| .cons (.start _ (by decide)) <| .cons (.read _ rfl) <|
      .cons (.read _ rfl) .nil⟩
  · rw [errorEnds_iff_delivered]
    exact List.cons_ne_nil _ _

end ServiceShapes.Channel
