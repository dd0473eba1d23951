import ServiceShapes.Proofs.Documents.Readable
import ServiceShapes.Proofs.Documents.Records
import ServiceShapes.Proofs.Documents.Values

/-!
# What documents can hold

Ids come into a model only through the reader of ids, which makes readable ones.  So whatever a
document holds and in whatever order and form, the model that is loaded from it is readable
(`Model.readable_of_load`).
-/

namespace ServiceShapes

/-- Ids that are read are readable. -/
theorem Json.readable_of_decodeId {value : Json} {id : ShapeId} (h : value.decodeId = .ok id) :
    id.Readable :=
  (decodeId_eq_ok_iff.1 h).2

theorem Json.readable_of_decodeList {value : Json} {ids : List ShapeId}
    (h : value.decodeList decodeId = .ok ids) : ∀ id ∈ ids, id.Readable := by
  intro id hid
  obtain ⟨_, read⟩ := exists_decode_of_mem_decodeList h hid
  exact readable_of_decodeId read

theorem Json.readable_of_decodeNullable {value : Json} {id : Option ShapeId}
    (h : value.decodeNullable decodeId = .ok id) : ∀ i ∈ id.toList, i.Readable :=
  fun _ hi => readable_of_decodeId (decodeNullable_eq_ok h hi)

/-! ### Traits -/

namespace Trait

variable {kind : TraitKind} {t : Trait}

theorem readable_ofBareKind (kind : TraitKind) : (ofBareKind kind).Readable := by
  intro id hid
  cases kind <;> cases hid

/-- **The field of a trait is read as a readable trait.** -/
theorem readable_of_fieldOf {name : String} {decode : Json → Decoded Trait} {value : Json}
    (field : fieldOf kind = some (name, decode)) (h : decode value = .ok t) : t.Readable := by
  cases kind with
  | streaming => cases field
  | required => cases field
  | error =>
    cases field
    obtain ⟨_, -, rfl⟩ := Except.map_eq_ok_iff.1 h
    exact List.forall_mem_nil _
  | documentation =>
    cases field
    obtain ⟨_, -, rfl⟩ := Except.map_eq_ok_iff.1 h
    exact List.forall_mem_nil _
  | syntheticInput =>
    cases field
    obtain ⟨operation, read, rfl⟩ := Except.map_eq_ok_iff.1 h
    exact List.forall_mem_singleton.2 (Json.readable_of_decodeId read)
  | syntheticOutput =>
    cases field
    obtain ⟨operation, read, rfl⟩ := Except.map_eq_ok_iff.1 h
    exact List.forall_mem_singleton.2 (Json.readable_of_decodeId read)

theorem readable_of_ofFields {fields : Fields Json} (h : ofFields kind fields = .ok t) :
    t.Readable := by
  unfold ofFields at h
  split at h
  · cases h
    exact readable_ofBareKind kind
  · rename_i name decode field
    obtain ⟨-, -, h⟩ := Except.bind_eq_ok_iff.1 h
    obtain ⟨_, -, read⟩ := requiredField_eq_ok_iff.1 h
    exact readable_of_fieldOf field read

theorem readable_of_ofItems {items : List Json} (h : ofItems kind items = .ok t) :
    t.Readable := by
  unfold ofItems at h
  split at h
  · cases h
    exact readable_ofBareKind kind
  · cases h
  · cases h
  · rename_i name decode item rest field
    obtain ⟨t', read, h⟩ := Except.bind_eq_ok_iff.1 h
    -- whatever else the array holds makes it fail
    split at h
    · cases h
      exact readable_of_fieldOf field read
    · cases h

/-- **A trait is readable, in whichever of the two forms it was written.** -/
theorem readable_of_ofJson {value : Json} (h : ofJson value = .ok t) : t.Readable := by
  unfold ofJson at h
  split at h
  · obtain ⟨-, -, h⟩ := Except.bind_eq_ok_iff.1 h
    obtain ⟨kind, -, h⟩ := Except.bind_eq_ok_iff.1 h
    exact readable_of_ofFields h
  · cases h
  · obtain ⟨kind, -, h⟩ := Except.bind_eq_ok_iff.1 h
    exact readable_of_ofItems h
  · cases h

end Trait

theorem TraitSet.readable_of_ofJson {value : Json} {set : TraitSet} (h : ofJson value = .ok set) :
    ∀ t ∈ set.toList, t.Readable := by
  obtain ⟨ts, read, rfl⟩ := Except.map_eq_ok_iff.1 h
  intro t ht
  obtain ⟨_, decoded⟩ := Json.exists_decode_of_mem_decodeList read ht
  exact Trait.readable_of_ofJson decoded

/-! ### Kinds of shapes -/

namespace ShapeKind

variable {fields : Fields Json} {name : String}

theorem readable_of_idField {id : ShapeId} (h : requiredField name Json.decodeId fields = .ok id) :
    id.Readable := by
  obtain ⟨_, -, read⟩ := requiredField_eq_ok_iff.1 h
  exact Json.readable_of_decodeId read

theorem readable_of_idsField {ids : List ShapeId}
    (h : optionalField name [] (Json.decodeList Json.decodeId) fields = .ok ids) :
    ∀ id ∈ ids, id.Readable := by
  rcases optionalField_eq_ok_iff.1 h with ⟨-, rfl⟩ | ⟨_, -, read⟩
  · exact List.forall_mem_nil _
  · exact Json.readable_of_decodeList read

theorem readable_of_nullableField {id : Option ShapeId}
    (h : optionalField name none (Json.decodeNullable Json.decodeId) fields = .ok id) :
    ∀ i ∈ id.toList, i.Readable := by
  rcases optionalField_eq_ok_iff.1 h with ⟨-, rfl⟩ | ⟨_, -, read⟩
  · exact List.forall_mem_nil _
  · exact Json.readable_of_decodeNullable read

/-- **Every kind of shape is read as a readable one.** -/
theorem readable_of_ofCheckedFields {type : ShapeType} {kind : ShapeKind}
    (h : ofCheckedFields fields type = .ok kind) : kind.Readable := by
  cases type with
  | service =>
    obtain ⟨operations, read, rfl⟩ := Except.map_eq_ok_iff.1 h
    exact readable_of_idsField read
  | operation =>
    obtain ⟨input, inputRead, h⟩ := Except.bind_eq_ok_iff.1 h
    obtain ⟨output, outputRead, h⟩ := Except.bind_eq_ok_iff.1 h
    obtain ⟨errors, errorsRead, h⟩ := Except.bind_eq_ok_iff.1 h
    cases h
    exact readable_operation_iff.2 ⟨readable_of_nullableField inputRead,
      readable_of_nullableField outputRead, readable_of_idsField errorsRead⟩
  | record =>
    obtain ⟨members, -, rfl⟩ := Except.map_eq_ok_iff.1 h
    exact List.forall_mem_nil _
  | union =>
    obtain ⟨members, -, rfl⟩ := Except.map_eq_ok_iff.1 h
    exact List.forall_mem_nil _
  | member =>
    obtain ⟨target, read, rfl⟩ := Except.map_eq_ok_iff.1 h
    exact List.forall_mem_singleton.2 (readable_of_idField read)
  | list =>
    obtain ⟨item, read, rfl⟩ := Except.map_eq_ok_iff.1 h
    exact List.forall_mem_singleton.2 (readable_of_idField read)
  | map =>
    obtain ⟨key, keyRead, h⟩ := Except.bind_eq_ok_iff.1 h
    obtain ⟨value, valueRead, h⟩ := Except.bind_eq_ok_iff.1 h
    cases h
    exact readable_map_iff.2 ⟨readable_of_idField keyRead, readable_of_idField valueRead⟩
  | simple =>
    obtain ⟨simple, -, rfl⟩ := Except.map_eq_ok_iff.1 h
    exact List.forall_mem_nil _

theorem readable_of_ofFields {kind : ShapeKind} (h : ofFields fields = .ok kind) :
    kind.Readable := by
  obtain ⟨-, -, h⟩ := Except.bind_eq_ok_iff.1 h
  obtain ⟨type, -, h⟩ := Except.bind_eq_ok_iff.1 h
  obtain ⟨-, -, h⟩ := Except.bind_eq_ok_iff.1 h
  exact readable_of_ofCheckedFields h

end ShapeKind

/-! ### Shapes and documents -/

theorem Shape.readable_of_ofJson {value : Json} {s : Shape} (h : ofJson value = .ok s) :
    s.Readable := by
  unfold ofJson at h
  split at h
  · obtain ⟨-, -, h⟩ := Except.bind_eq_ok_iff.1 h
    obtain ⟨id, idRead, h⟩ := Except.bind_eq_ok_iff.1 h
    obtain ⟨traits, traitsRead, h⟩ := Except.bind_eq_ok_iff.1 h
    obtain ⟨kind, kindRead, h⟩ := Except.bind_eq_ok_iff.1 h
    cases h
    refine ⟨ShapeKind.readable_of_idField idRead, ShapeKind.readable_of_ofFields kindRead, ?_⟩
    rcases optionalField_eq_ok_iff.1 traitsRead with ⟨-, rfl⟩ | ⟨_, -, read⟩
    · exact List.forall_mem_nil _
    · exact TraitSet.readable_of_ofJson read
  · cases h

namespace Model

variable {m : Model} {document : Json}

theorem readable_of_decodeShapes {value : Json} {shapes : List Shape}
    (h : decodeShapes value = .ok shapes) : ∀ s ∈ shapes, s.Readable := by
  intro s hs
  obtain ⟨_, read⟩ := Json.exists_decode_of_mem_decodeList h hs
  exact Shape.readable_of_ofJson read

/-- The shapes of a document are readable, in whichever of the two forms it was written. -/
theorem readable_of_documentShapes {shapes : List Shape}
    (h : documentShapes document = .ok shapes) : ∀ s ∈ shapes, s.Readable := by
  unfold documentShapes at h
  split at h
  · obtain ⟨-, -, h⟩ := Except.bind_eq_ok_iff.1 h
    obtain ⟨_, -, read⟩ := requiredField_eq_ok_iff.1 h
    exact readable_of_decodeShapes read
  · cases h
  · obtain ⟨shapes', read, h⟩ := Except.bind_eq_ok_iff.1 h
    split at h
    · cases h
      exact readable_of_decodeShapes read
    · cases h
  · cases h

theorem readable_of_ofJson (h : ofJson document = .ok m) : m.Readable := by
  obtain ⟨shapes, read, h⟩ := Except.bind_eq_ok_iff.1 h
  have built : m.shapes.Perm shapes := ofShapes_eq_ok_iff.1 (Except.mapError_eq_ok_iff.1 h)
  intro s hs
  exact readable_of_documentShapes read s (built.mem_iff.1 hs)

/-- What loading does with a text, where it succeeds. -/
theorem load_eq_ok_iff {text : String} : load text = .ok m ↔
    ∃ document, Json.read? text.toList = some document ∧ usable document = true ∧
      ofJson document = .ok m := by
  unfold load
  cases Json.read? text.toList with
  | none => simp
  | some document =>
    cases sound : usable document with
    | false => simp [sound]
    | true => simp [sound, Except.mapError_eq_ok_iff]

/-- **Every model that is loaded from a text is readable.** -/
theorem readable_of_load {text : String} (h : load text = .ok m) : m.Readable := by
  obtain ⟨document, -, -, decoded⟩ := load_eq_ok_iff.1 h
  exact readable_of_ofJson decoded

end Model

end ServiceShapes
