import ServiceShapes.Model.Document
import ServiceShapes.Proofs.Ids
import ServiceShapes.Proofs.Results

/-!
# Reading single values

What the readers of strings, lists, ids and names accept, and that each reads back what is written
for it.
-/

namespace ServiceShapes

namespace Json

variable {α : Type} {value : Json} {decode : Json → Decoded α}

theorem decodeString_eq_ok_iff {text : String} :
    value.decodeString = .ok text ↔ value = .string text := by
  cases value <;> simp [decodeString]

/-- **A list is read item by item.** -/
theorem decodeList_eq_ok_iff {l : List α} : value.decodeList decode = .ok l ↔
    ∃ items, value = .array items ∧ List.Forall₂ (fun item x => decode item = .ok x) items l := by
  cases value <;> simp [decodeList, List.mapM_eq_ok_iff]

/-- Every item that is read from a list is read from a value. -/
theorem exists_decode_of_mem_decodeList {l : List α} (h : value.decodeList decode = .ok l) {x : α}
    (hx : x ∈ l) : ∃ item, decode item = .ok x := by
  obtain ⟨items, -, each⟩ := decodeList_eq_ok_iff.1 h
  obtain ⟨item, -, read⟩ := each.exists_of_mem_right hx
  exact ⟨item, read⟩

theorem decodeNullable_eq_ok {o : Option α} (h : value.decodeNullable decode = .ok o) {x : α}
    (hx : x ∈ o.toList) : decode value = .ok x := by
  unfold decodeNullable at h
  split at h
  · cases h
    cases hx
  · obtain ⟨y, read, rfl⟩ := Except.map_eq_ok_iff.1 h
    rw [List.mem_singleton.1 hx]
    exact read

/-- **An id is read exactly from its text, and only if it is readable.** -/
theorem decodeId_eq_ok_iff {id : ShapeId} :
    value.decodeId = .ok id ↔ value = id.toJson ∧ id.Readable := by
  rw [decodeId, Except.bind_eq_ok_iff]
  simp only [decodeString_eq_ok_iff, Except.mapError_eq_ok_iff, ShapeId.parse_eq_ok_iff]
  constructor
  · rintro ⟨_, rfl, rfl, readable⟩
    exact ⟨rfl, readable⟩
  · rintro ⟨rfl, readable⟩
    exact ⟨_, rfl, rfl, readable⟩

theorem decode_strings (texts : List String) :
    (strings texts).decodeList decodeString = .ok texts :=
  List.mapM_map_eq_ok fun _ _ => rfl

end Json

/-! ### Ids and names as they are written -/

theorem ShapeId.decode_toJson {id : ShapeId} (readable : id.Readable) :
    id.toJson.decodeId = .ok id :=
  Json.decodeId_eq_ok_iff.2 ⟨rfl, readable⟩

theorem ShapeId.decode_listToJson {ids : List ShapeId} (readable : ∀ id ∈ ids, id.Readable) :
    (listToJson ids).decodeList Json.decodeId = .ok ids :=
  List.mapM_map_eq_ok fun id hid => decode_toJson (readable id hid)

theorem ShapeId.decode_nullable {id : Option ShapeId} (readable : ∀ i ∈ id.toList, i.Readable) :
    (id.elim .null toJson).decodeNullable Json.decodeId = .ok id := by
  cases id with
  | none => rfl
  | some id =>
    show id.toJson.decodeId.map some = .ok (some id)
    rw [decode_toJson (readable id List.mem_cons_self)]
    rfl

theorem Fault.decode_name (fault : Fault) :
    (Json.string fault.name).decodeChoice names = .ok fault := by
  cases fault <;> rfl

theorem TraitKind.decode_name (kind : TraitKind) :
    (Json.string kind.name).decodeName names = .ok kind := by
  cases kind <;> rfl

theorem SimpleType.decode_name (type : SimpleType) :
    (Json.string type.name).decodeChoice names = .ok type := by
  cases type <;> rfl

theorem ShapeType.decode_name (type : ShapeType) :
    (Json.string type.name).decodeNameOrNumber names = .ok type := by
  cases type <;> rfl

end ServiceShapes
