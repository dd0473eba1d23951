import ServiceShapes.Proofs.PropertyBags.Operations
import ServiceShapes.PropertyBag.Shared

/-!
# Shared property bags as maps

A script (`SharedBags.Script`) starts with one handle of an empty bag, makes further handles from those that
it knows, and does operations through any of them.  It cannot name a handle that it has not made, so it
always runs to its end.

What it has done through one handle is there for all others: **the answers are those of one map with a slot
for each type, to which the operations are done in their order**, whichever handles they went through
(`SharedBags.Script.run_as_slots`).  The steps on the bag are those of `PropertyBag.Holds.perform`; the
handles add that there is one bag only (`SharedBags.allTo`).
-/

namespace ServiceShapes

variable {κ : Type} {Value : κ → Type}

open PropertyBag (Operation Answer)

/-! ### Sequences of operations -/

namespace PropertyBag.Operation

variable [DecidableEq κ] {kind : κ} {op : Operation κ Value} {ops : List (Operation κ Value)}
  {slots : Finmap Value}

/-- What a map answers to operations, one after the other. -/
def answers (slots : Finmap Value) : List (Operation κ Value) → List (Answer κ Value)
  | [] => []
  | op :: ops => op.answer slots :: answers (op.after slots) ops

theorem lookup_after_of_ne (ne : op.written? ≠ some kind) :
    (op.after slots).lookup kind = slots.lookup kind := by
  have other : ∀ {written : κ}, some written ≠ some kind → kind ≠ written :=
    fun differs same => differs (congrArg some same.symm)
  cases op with
  | insert written value => exact Finmap.lookup_insert_of_ne _ (other ne)
  | remove written => exact Finmap.lookup_erase_ne (other ne)
  | update written change =>
    rw [after]
    cases slots.lookup written with
    | none => rfl
    | some value => exact Finmap.lookup_insert_of_ne _ (other ne)
  | get _ | contains _ | size | isEmpty => rfl

/-- A slot stays as it is until it is written to. -/
theorem lookup_foldl_after_of_ne (ne : ∀ op ∈ ops, op.written? ≠ some kind) :
    (ops.foldl after slots).lookup kind = slots.lookup kind := by
  induction ops generalizing slots with
  | nil => rfl
  | cons op ops ih =>
    obtain ⟨here, later⟩ := List.forall_mem_cons.1 ne
    rw [List.foldl_cons, ih later, lookup_after_of_ne here]

end PropertyBag.Operation

namespace SharedBags

variable {bag bag' : PropertyBag κ Value} {n handle : Nat}

/-! ### One bag -/

/-- Handles that all lead to one bag. -/
def allTo (bag : PropertyBag κ Value) (n : Nat) : SharedBags κ Value := ⟨[bag], .replicate n 0⟩

theorem nextHandle_allTo : (allTo bag n).nextHandle = n := List.length_replicate

theorem handle_allTo (known : handle < n) : (allTo bag n).handles[handle]? = some 0 :=
  List.getElem?_replicate_of_lt known

theorem bag?_allTo (known : handle < n) : (allTo bag n).bag? handle = some bag := by
  rw [bag?, handle_allTo known]
  rfl

theorem setBag_allTo (known : handle < n) : (allTo bag n).setBag handle bag' = allTo bag' n := by
  rw [setBag, handle_allTo known]
  rfl

theorem share_allTo (known : handle < n) : (allTo bag n).share handle = allTo bag (n + 1) := by
  rw [share, handle_allTo known, allTo, allTo, List.replicate_succ']
  rfl

/-! ### Scripts -/

/-- What is done through handles, of which `n` are known: more are made, each leading where a known one
leads, and bags are used through them. -/
inductive Script (κ : Type) (Value : κ → Type) : Nat → Type
  | done {n : Nat} : Script κ Value n
  | clone {n : Nat} (handle : Fin n) (rest : Script κ Value (n + 1)) : Script κ Value n
  | act {n : Nat} (handle : Fin n) (op : Operation κ Value) (rest : Script κ Value n) :
      Script κ Value n

namespace Script

variable [DecidableEq κ] {slots : Finmap Value}

/-- What is left at the end, and the answers to the operations. -/
def run {n : Nat} :
    Script κ Value n → SharedBags κ Value → Option (SharedBags κ Value × List (Answer κ Value))
  | .done, s => some (s, [])
  | .clone handle rest, s => rest.run (s.share handle)
  | .act handle op rest, s => do
    let bag ← s.bag? handle
    let (s, answers) ← rest.run (s.setBag handle (bag.perform op).1)
    return (s, (bag.perform op).2 :: answers)

/-- The operations, whichever handles they go through. -/
def operations {n : Nat} : Script κ Value n → List (Operation κ Value)
  | .done => []
  | .clone _ rest => rest.operations
  | .act _ op rest => op :: rest.operations

/-- A script runs on one bag as its operations do on a map. -/
theorem exists_run_allTo_eq_some (script : Script κ Value n) (h : bag.Holds slots) :
    ∃ bag' m, script.run (allTo bag n) = some (allTo bag' m, Operation.answers slots script.operations) ∧
      bag'.Holds (script.operations.foldl Operation.after slots) := by
  induction script generalizing bag slots with
  | @done n => exact ⟨bag, n, rfl, h⟩
  | clone handle rest ih =>
    rw [run, share_allTo handle.2]
    exact ih h
  | act handle op rest ih =>
    obtain ⟨kept, answered⟩ := h.perform op
    obtain ⟨bag', m, ran, holds⟩ := ih kept
    refine ⟨bag', m, ?_, holds⟩
    rw [run, bag?_allTo handle.2, Option.bind_eq_bind, Option.bind_some, setBag_allTo handle.2, ran,
      answered]
    rfl

/-- **A shared bag is a map with one slot for each type.**

Every script has a result, and its answers are those of the map.  In the end all handles lead to one bag,
which holds what the map holds.  There each value has the type under which it is filed, so that no downcast
fails; an operation on one type does not change what is found of any other; and whatever was last written
to a slot and is a value, is what taking it out or replacing it gives back. -/
theorem run_as_slots (script : Script κ Value 1) :
    ∃ s bag, script.run single = some (s, Operation.answers ∅ script.operations) ∧
      (∀ handle < s.nextHandle, s.bag? handle = some bag) ∧
      bag.Holds (script.operations.foldl Operation.after ∅) ∧
      (∀ kind any, bag.filed? kind = some any → ∃ value, any.as? kind = some value) ∧
      (∀ (op : Operation κ Value) (kind : κ), op.written? ≠ some kind →
        (bag.perform op).1.get? kind = bag.get? kind) ∧
      ∀ before store later kind value, script.operations = before ++ store :: later →
        (store.after (before.foldl Operation.after ∅)).lookup kind = some value →
        (∀ op ∈ later, op.written? ≠ some kind) →
        (bag.perform (.remove kind)).2 = .value kind (some value) ∧
          ∀ new, (bag.perform (.insert kind new)).2 = .value kind (some value) := by
  obtain ⟨bag, m, ran, holds⟩ := script.exists_run_allTo_eq_some PropertyBag.holds_empty
  refine ⟨allTo bag m, bag, ran, fun handle known => ?_, holds, fun kind any => holds.exists_as?_eq_some,
    fun op kind => PropertyBag.get?_perform_of_ne, ?_⟩
  · rw [nextHandle_allTo] at known
    exact bag?_allTo known
  · intro before store later kind value parts stored unwritten
    have present : (script.operations.foldl Operation.after ∅).lookup kind = some value := by
      rw [parts, List.foldl_append, List.foldl_cons, Operation.lookup_foldl_after_of_ne unwritten, stored]
    have found := (holds.found kind).trans present
    exact ⟨congrArg (Answer.value kind) found, fun new => congrArg (Answer.value kind) found⟩

/-- A text and a number are put in through a second handle and found through the first. -/
def regionAndPort : Script Bool (fun isText => cond isText String Nat) 1 :=
  .clone 0 <| .act 1 (.insert true "west") <| .act 1 (.insert false (442 : Nat)) <|
    .act 0 (.update false Nat.succ) <| .act 1 (.remove true) <| .act 0 .size <| .act 1 (.get false) .done

example : (regionAndPort.run single).map (·.2) =
    some [.value true none, .value false none, .value false (some (442 : Nat)),
      .value true (some "west"), .count 1, .value false (some (443 : Nat))] :=
  rfl

end Script

end SharedBags

end ServiceShapes
