import Mathlib.Data.Finmap
import ServiceShapes.PropertyBag.Basic
import ServiceShapes.Proofs.KeyedLists

/-!
# Property bags as maps

What is done with a bag (`PropertyBag.Operation`) is compared with the same on a map that has one slot for
each type, a `Finmap`, where a value of another type does not fit in.  A bag holds what such a map holds if
each value is filed under its own type and the values that are found are those of the map
(`PropertyBag.Holds`).  **Every operation keeps this and answers what the map answers** (`Holds.perform`).

That values are filed under their own types is what makes the difference between a name that is there and a
value that is found.  Without it, `contains`, `size` and `isEmpty`, which only look at the names, would not
agree with `get?`.
-/

namespace ServiceShapes

variable {κ : Type} {Value : κ → Type} [DecidableEq κ] {kind other : κ}

/-! ### Values of any type -/

namespace AnyValue

variable {any : AnyValue κ Value} {value : Value kind}

theorem as?_eq_some_iff : any.as? kind = some value ↔ any = ⟨kind, value⟩ := by
  obtain ⟨own, content⟩ := any
  by_cases same : own = kind
  · subst same
    rw [as?, dif_pos rfl, Option.some_inj, mk.injEq, heq_eq_eq, and_iff_right rfl]
  · rw [as?, dif_neg same]
    refine iff_of_false nofun fun equal => same ?_
    cases equal
    rfl

theorem isSome_as?_iff : (any.as? kind).isSome ↔ any.kind = kind := by
  rw [as?]
  split <;> simp [*]

end AnyValue

namespace PropertyBag

variable {bag : PropertyBag κ Value} {value : Value kind} {change : Value kind → Value kind}
  {any : AnyValue κ Value}

/-- A change of a value is seen if it is asked for by the type of the change. -/
theorem as?_changeValue : (changeValue kind change any).as? kind = (any.as? kind).map change := by
  rw [changeValue]
  cases found : any.as? kind with
  | none => exact found
  | some value => exact AnyValue.as?_eq_some_iff.2 rfl

theorem kind_changeValue : (changeValue kind change any).kind = any.kind := by
  rw [changeValue]
  cases found : any.as? kind with
  | none => rfl
  | some value => rw [AnyValue.as?_eq_some_iff.1 found]

/-! ### What is filed -/

theorem filed?_remove : (bag.remove kind).1.filed? other =
    if other = kind then none else bag.filed? other := by
  refine (List.lookup_filter_key (· ≠ kind)).trans ?_
  simp only [decide_eq_true_eq, ite_not, filed?]

theorem filed?_insert : (bag.insert kind value).1.filed? other =
    if other = kind then some ⟨kind, value⟩ else bag.filed? other := by
  show List.lookup other ((kind, _) :: (bag.remove kind).1.entries) = _
  rw [List.lookup_cons, ← filed?, filed?_remove]
  by_cases same : other = kind
  · rw [beq_iff_eq.2 same, if_pos same, if_pos same]
  · rw [beq_false_of_ne same, if_neg same, if_neg same]

theorem filed?_update : (bag.update kind change).1.filed? other =
    (bag.filed? other).map fun any => if other = kind then changeValue kind change any else any :=
  List.lookup_map_values fun other any => if other = kind then changeValue kind change any else any

theorem mem_kinds_iff : kind ∈ bag.kinds ↔ (bag.filed? kind).isSome :=
  List.isSome_lookup_iff.symm

/-! ### What is found -/

theorem get?_insert_self : (bag.insert kind value).1.get? kind = some value := by
  rw [get?, filed?_insert, if_pos rfl]
  exact AnyValue.as?_eq_some_iff.2 rfl

theorem get?_insert_of_ne (ne : other ≠ kind) :
    (bag.insert kind value).1.get? other = bag.get? other := by
  rw [get?, filed?_insert, if_neg ne, ← get?]

theorem get?_remove_self : (bag.remove kind).1.get? kind = none := by
  rw [get?, filed?_remove, if_pos rfl, Option.bind_none]

theorem get?_remove_of_ne (ne : other ≠ kind) : (bag.remove kind).1.get? other = bag.get? other := by
  rw [get?, filed?_remove, if_neg ne, ← get?]

theorem get?_update_self : (bag.update kind change).1.get? kind = (bag.get? kind).map change := by
  rw [get?, filed?_update, get?]
  cases bag.filed? kind with
  | none => rfl
  | some any =>
    rw [Option.map_some, if_pos rfl, Option.bind_some, Option.bind_some]
    exact as?_changeValue

theorem get?_update_of_ne (ne : other ≠ kind) :
    (bag.update kind change).1.get? other = bag.get? other := by
  rw [get?, filed?_update, get?]
  cases bag.filed? other with
  | none => rfl
  | some any => rw [Option.map_some, if_neg ne]

/-! ### Operations -/

/-- What can be done with a bag. -/
inductive Operation (κ : Type) (Value : κ → Type)
  | insert (kind : κ) (value : Value kind)
  | get (kind : κ)
  | update (kind : κ) (change : Value kind → Value kind)
  | remove (kind : κ)
  | contains (kind : κ)
  | size
  | isEmpty

/-- What is answered. -/
inductive Answer (κ : Type) (Value : κ → Type)
  | value (kind : κ) (found : Option (Value kind))
  | flag (yes : Bool)
  | count (n : Nat)

/-- Does an operation on a bag. -/
def perform (bag : PropertyBag κ Value) : Operation κ Value → PropertyBag κ Value × Answer κ Value
  | .insert kind value => ((bag.insert kind value).1, .value kind (bag.insert kind value).2)
  | .get kind => (bag, .value kind (bag.get? kind))
  | .update kind change => ((bag.update kind change).1, .value kind (bag.update kind change).2)
  | .remove kind => ((bag.remove kind).1, .value kind (bag.remove kind).2)
  | .contains kind => (bag, .flag (bag.contains kind))
  | .size => (bag, .count bag.size)
  | .isEmpty => (bag, .flag bag.isEmpty)

namespace Operation

/-- The type of which the operation may change the value. -/
def written? : Operation κ Value → Option κ
  | .insert kind _ | .update kind _ | .remove kind => some kind
  | .get _ | .contains _ | .size | .isEmpty => none

/-- The map after the operation. -/
def after (slots : Finmap Value) : Operation κ Value → Finmap Value
  | .insert kind value => slots.insert kind value
  | .update kind change =>
    (slots.lookup kind).elim slots fun value => slots.insert kind (change value)
  | .remove kind => slots.erase kind
  | .get _ | .contains _ | .size | .isEmpty => slots

/-- What a map answers. -/
def answer (slots : Finmap Value) : Operation κ Value → Answer κ Value
  | .insert kind _ | .get kind | .update kind _ | .remove kind => .value kind (slots.lookup kind)
  | .contains kind => .flag (decide (kind ∈ slots))
  | .size => .count slots.keys.card
  | .isEmpty => .flag (decide (slots.keys = ∅))

end Operation

variable {op : Operation κ Value} {slots : Finmap Value}

/-- **Operations on one type leave the values of all others unchanged.** -/
theorem get?_perform_of_ne (ne : op.written? ≠ some kind) :
    (bag.perform op).1.get? kind = bag.get? kind := by
  cases op with
  | insert written value => exact get?_insert_of_ne fun same => ne (congrArg some same.symm)
  | update written change => exact get?_update_of_ne fun same => ne (congrArg some same.symm)
  | remove written => exact get?_remove_of_ne fun same => ne (congrArg some same.symm)
  | get _ | contains _ | size | isEmpty => rfl

/-! ### Bags and maps -/

/-- The bag holds what the map holds, each value filed under its own type. -/
structure Holds (bag : PropertyBag κ Value) (slots : Finmap Value) : Prop where
  typed : ∀ kind any, bag.filed? kind = some any → any.kind = kind
  found : ∀ kind, bag.get? kind = slots.lookup kind

theorem holds_empty : (empty : PropertyBag κ Value).Holds ∅ :=
  ⟨nofun, fun _ => rfl⟩

namespace Holds

/-- **No downcast fails**: what is filed under a name is found by it. -/
theorem exists_as?_eq_some (h : bag.Holds slots) (filed : bag.filed? kind = some any) :
    ∃ value, any.as? kind = some value :=
  Option.isSome_iff_exists.1 (AnyValue.isSome_as?_iff.2 (h.typed kind any filed))

theorem isSome_filed?_iff (h : bag.Holds slots) : (bag.filed? kind).isSome ↔ kind ∈ slots := by
  rw [← Finmap.lookup_isSome, ← h.found, get?]
  cases filed : bag.filed? kind with
  | none => rfl
  | some any =>
    obtain ⟨value, cast⟩ := h.exists_as?_eq_some filed
    rw [Option.bind_some, cast, Option.isSome_some, Option.isSome_some]

/-- The names are the keys of the map. -/
theorem keys_eq (h : bag.Holds slots) : slots.keys = bag.kinds.toFinset := by
  ext kind
  rw [Finmap.mem_keys, List.mem_toFinset, mem_kinds_iff, h.isSome_filed?_iff]

theorem contains_eq (h : bag.Holds slots) : bag.contains kind = decide (kind ∈ slots) :=
  Bool.eq_iff_iff.2 (h.isSome_filed?_iff.trans decide_eq_true_iff.symm)

theorem size_eq (h : bag.Holds slots) : bag.size = slots.keys.card := by
  have once : bag.kinds.Nodup := bag.nodup_kinds
  rw [h.keys_eq, List.toFinset_card_of_nodup once, kinds, List.length_map, size]

theorem isEmpty_eq (h : bag.Holds slots) : bag.isEmpty = decide (slots.keys = ∅) := by
  rw [Bool.eq_iff_iff, decide_eq_true_iff, h.keys_eq, List.toFinset_eq_empty_iff, kinds,
    List.map_eq_nil_iff, isEmpty, List.isEmpty_iff]

theorem insert (h : bag.Holds slots) :
    (bag.insert kind value).1.Holds (slots.insert kind value) := by
  refine ⟨fun other any filed => ?_, fun other => ?_⟩
  · rw [filed?_insert] at filed
    split at filed
    · rename_i same
      cases filed
      exact same.symm
    · exact h.typed other any filed
  · by_cases same : other = kind
    · subst same
      rw [get?_insert_self, Finmap.lookup_insert]
    · rw [get?_insert_of_ne same, Finmap.lookup_insert_of_ne _ same, h.found]

theorem remove (h : bag.Holds slots) : (bag.remove kind).1.Holds (slots.erase kind) := by
  refine ⟨fun other any filed => ?_, fun other => ?_⟩
  · rw [filed?_remove] at filed
    split at filed
    · cases filed
    · exact h.typed other any filed
  · by_cases same : other = kind
    · subst same
      rw [get?_remove_self, Finmap.lookup_erase]
    · rw [get?_remove_of_ne same, Finmap.lookup_erase_ne same, h.found]

theorem update (h : bag.Holds slots) :
    (bag.update kind change).1.Holds ((Operation.update kind change).after slots) := by
  refine ⟨fun other any filed => ?_, fun other => ?_⟩
  · rw [filed?_update] at filed
    obtain ⟨before, there, rfl⟩ := Option.map_eq_some_iff.1 filed
    split
    · rw [kind_changeValue, h.typed other before there]
    · exact h.typed other before there
  · rw [Operation.after]
    by_cases same : other = kind
    · subst same
      rw [get?_update_self, h.found]
      cases present : slots.lookup other with
      | none => exact present.symm
      | some value => exact (Finmap.lookup_insert _).symm
    · rw [get?_update_of_ne same, h.found]
      cases slots.lookup kind with
      | none => rfl
      | some value => exact (Finmap.lookup_insert_of_ne _ same).symm

/-- **A bag that holds what a map holds answers as the map does, and holds the same as it afterwards.** -/
theorem perform (h : bag.Holds slots) (op : Operation κ Value) :
    (bag.perform op).1.Holds (op.after slots) ∧ (bag.perform op).2 = op.answer slots := by
  cases op with
  | insert kind value => exact ⟨h.insert, congrArg (Answer.value kind) (h.found kind)⟩
  | get kind => exact ⟨h, congrArg (Answer.value kind) (h.found kind)⟩
  | update kind change => exact ⟨h.update, congrArg (Answer.value kind) (h.found kind)⟩
  | remove kind => exact ⟨h.remove, congrArg (Answer.value kind) (h.found kind)⟩
  | contains kind => exact ⟨h, congrArg Answer.flag h.contains_eq⟩
  | size => exact ⟨h, congrArg Answer.count h.size_eq⟩
  | isEmpty => exact ⟨h, congrArg Answer.flag h.isEmpty_eq⟩

end Holds

end PropertyBag

end ServiceShapes
