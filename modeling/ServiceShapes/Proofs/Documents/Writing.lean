import ServiceShapes.Proofs.Documents.Readable
import ServiceShapes.Proofs.Documents.Records
import ServiceShapes.Proofs.Documents.Values

/-!
# Reading back what is written

Whatever is written of a readable model is decoded as what it was: its traits, the kinds of its
shapes, its shapes, and the document as a whole (`Model.documentShapes_toJson`).

A shape is one flat record that three readers share: one takes the id and the traits, one the type,
and one the fields of the kind.  No name may be known to two of them, and this is what
`ShapeKind.name_not_shared` says.
-/

namespace ServiceShapes

/-! ### Traits -/

namespace Trait

variable {t : Trait}

/-- The record that a trait is written as. -/
def fields (t : Trait) : Fields Json := ("kind", .string t.kind.name) :: t.ownFields

theorem distinct_fields (t : Trait) : t.fields.Distinct := by
  cases t <;> simp [Fields.Distinct, fields, ownFields]

theorem withoutFields_fields (t : Trait) : withoutFields ["kind"] t.fields = t.ownFields := by
  cases t <;> rfl

/-- **A trait has no field besides its kind, or one that holds the rest of it.** -/
theorem ownFields_cases (readable : t.Readable) :
    (fieldOf t.kind = none ∧ ofBareKind t.kind = t) ∨
    ∃ name decode value, fieldOf t.kind = some (name, decode) ∧ t.ownFields = [(name, value)] ∧
      decode value = .ok t := by
  cases t with
  | streaming => exact .inl ⟨rfl, rfl⟩
  | required => exact .inl ⟨rfl, rfl⟩
  | error fault =>
    refine .inr ⟨_, _, _, rfl, rfl, ?_⟩
    rw [Fault.decode_name]
    rfl
  | documentation text => exact .inr ⟨_, _, _, rfl, rfl, rfl⟩
  | syntheticInput operation =>
    refine .inr ⟨_, _, _, rfl, rfl, ?_⟩
    rw [ShapeId.decode_toJson (readable operation List.mem_cons_self)]
    rfl
  | syntheticOutput operation =>
    refine .inr ⟨_, _, _, rfl, rfl, ?_⟩
    rw [ShapeId.decode_toJson (readable operation List.mem_cons_self)]
    rfl

theorem ofFields_ownFields (readable : t.Readable) : ofFields t.kind t.ownFields = .ok t := by
  rcases ownFields_cases readable with ⟨bare, whole⟩ | ⟨name, decode, value, field, own, decoded⟩
  · rw [ofFields, bare]
    exact congrArg Except.ok whole
  · obtain ⟨passes, found, -⟩ := readSingle name decoded
    rw [ofFields, field, own, Except.bind_eq_ok_iff]
    exact ⟨(), passes, found⟩

/-- **A trait is read back.** -/
theorem ofJson_toJson (readable : t.Readable) : ofJson t.toJson = .ok t := by
  have kind : requiredField "kind" (Json.decodeName TraitKind.names) t.fields = .ok t.kind :=
    requiredField_eq_ok_iff.2 ⟨_, List.lookup_cons_self, TraitKind.decode_name t.kind⟩
  rw [toJson, ofJson, ← fields, Except.bind_eq_ok_iff]
  refine ⟨(), t.distinct_fields.passes ?_, ?_⟩
  · rw [List.forall_mem_singleton]
    exact accepts_of_requiredField kind
  · rw [Except.bind_eq_ok_iff]
    refine ⟨t.kind, kind, ?_⟩
    rw [withoutFields_fields]
    exact ofFields_ownFields readable

end Trait

/-- **Traits are read back as they stand**, however many there are of one kind. -/
theorem TraitSet.ofJson_toJson {set : TraitSet} (readable : ∀ t ∈ set.toList, t.Readable) :
    ofJson (.array (set.toList.map Trait.toJson)) = .ok set := by
  rw [ofJson, Except.map_eq_ok_iff]
  exact ⟨set.toList, List.mapM_map_eq_ok fun t ht => Trait.ofJson_toJson (readable t ht), rfl⟩

/-! ### Kinds of shapes -/

namespace ShapeKind

variable {kind : ShapeKind}

/-- The names of the fields that every shape has. -/
def sharedNames : List String := ["id", "type", "traits"]

theorem distinct_ownFields (kind : ShapeKind) : kind.ownFields.Distinct := by
  cases kind <;> simp [Fields.Distinct, ownFields]

/-- **No field of a kind of shape has a name that shapes of every kind use.** -/
theorem name_not_shared : ∀ f ∈ kind.ownFields, f.1 ∉ sharedNames := by
  cases kind <;> simp [ownFields, sharedNames]

theorem readBack_operation {input output : Option ShapeId} {errors : List ShapeId}
    (readable : (operation input output errors).Readable) :
    checkFields (schema .operation) (operation input output errors).ownFields = .ok () ∧
      ofCheckedFields (operation input output errors).ownFields .operation =
        .ok (.operation input output errors) := by
  obtain ⟨inputReadable, outputReadable, errorsReadable⟩ := readable_operation_iff.1 readable
  let fields := (operation input output errors).ownFields
  have first : optionalField "input" none (Json.decodeNullable Json.decodeId) fields = .ok input :=
    optionalField_eq_ok_iff.2 (.inr ⟨_, rfl, ShapeId.decode_nullable inputReadable⟩)
  have second : optionalField "output" none (Json.decodeNullable Json.decodeId) fields =
      .ok output :=
    optionalField_eq_ok_iff.2 (.inr ⟨_, rfl, ShapeId.decode_nullable outputReadable⟩)
  have third : optionalField "errors" [] (Json.decodeList Json.decodeId) fields = .ok errors :=
    optionalField_eq_ok_iff.2 (.inr ⟨_, rfl, ShapeId.decode_listToJson errorsReadable⟩)
  refine ⟨(distinct_ownFields _).passes ?_, ?_⟩
  · simp only [schema, List.forall_mem_cons]
    exact ⟨accepts_of_optionalField first, accepts_of_optionalField second,
      accepts_of_optionalField third, List.forall_mem_nil _⟩
  · refine Except.bind_eq_ok_iff.2 ⟨_, first, ?_⟩
    refine Except.bind_eq_ok_iff.2 ⟨_, second, ?_⟩
    exact Except.bind_eq_ok_iff.2 ⟨_, third, rfl⟩

theorem readBack_map {key value : ShapeId} (readable : (map key value).Readable) :
    checkFields (schema .map) (map key value).ownFields = .ok () ∧
      ofCheckedFields (map key value).ownFields .map = .ok (.map key value) := by
  obtain ⟨keyReadable, valueReadable⟩ := readable_map_iff.1 readable
  let fields := (map key value).ownFields
  have first : requiredField "key" Json.decodeId fields = .ok key :=
    requiredField_eq_ok_iff.2 ⟨_, rfl, ShapeId.decode_toJson keyReadable⟩
  have second : requiredField "value" Json.decodeId fields = .ok value :=
    requiredField_eq_ok_iff.2 ⟨_, rfl, ShapeId.decode_toJson valueReadable⟩
  refine ⟨(distinct_ownFields _).passes ?_, ?_⟩
  · simp only [schema, List.forall_mem_cons]
    exact ⟨accepts_of_requiredField first, accepts_of_requiredField second,
      List.forall_mem_nil _⟩
  · refine Except.bind_eq_ok_iff.2 ⟨_, first, ?_⟩
    exact Except.bind_eq_ok_iff.2 ⟨_, second, rfl⟩

/-- **A kind of shape is read back from its own fields**, and these pass the checks of its type. -/
theorem readBack_ownFields (readable : kind.Readable) :
    checkFields (schema kind.type) kind.ownFields = .ok () ∧
      ofCheckedFields kind.ownFields kind.type = .ok kind := by
  cases kind with
  | service operations =>
    obtain ⟨passes, -, field⟩ := readSingle "operations" (ShapeId.decode_listToJson readable)
    exact ⟨passes, Except.map_eq_ok_iff.2 ⟨_, field [], rfl⟩⟩
  | operation input output errors => exact readBack_operation readable
  | aggregate form members =>
    obtain ⟨passes, -, field⟩ := readSingle "members" (Json.decode_strings members)
    cases form
    · exact ⟨passes, Except.map_eq_ok_iff.2 ⟨_, field [], rfl⟩⟩
    · exact ⟨passes, Except.map_eq_ok_iff.2 ⟨_, field [], rfl⟩⟩
  | member target =>
    have decoded := ShapeId.decode_toJson (readable target List.mem_cons_self)
    obtain ⟨passes, field, -⟩ := readSingle "target" decoded
    exact ⟨passes, Except.map_eq_ok_iff.2 ⟨_, field, rfl⟩⟩
  | list item =>
    have decoded := ShapeId.decode_toJson (readable item List.mem_cons_self)
    obtain ⟨passes, field, -⟩ := readSingle "member" decoded
    exact ⟨passes, Except.map_eq_ok_iff.2 ⟨_, field, rfl⟩⟩
  | map key value => exact readBack_map readable
  | simple type =>
    obtain ⟨passes, field, -⟩ := readSingle "simple" (SimpleType.decode_name type)
    exact ⟨passes, Except.map_eq_ok_iff.2 ⟨_, field, rfl⟩⟩

/-- A kind of shape is read back from its type and its own fields. -/
theorem ofFields_type_ownFields (readable : kind.Readable) :
    ofFields (("type", .string kind.type.name) :: kind.ownFields) = .ok kind := by
  obtain ⟨passes, decoded⟩ := readBack_ownFields readable
  have notType : ∀ f ∈ kind.ownFields, f.1 ∉ ["type"] := by
    intro f hf named
    rw [List.mem_singleton] at named
    exact name_not_shared f hf (by simp [named, sharedNames])
  have distinct : Fields.Distinct (("type", .string kind.type.name) :: kind.ownFields) := by
    refine List.nodup_cons.2 ⟨?_, kind.distinct_ownFields⟩
    rw [List.mem_map]
    rintro ⟨f, hf, named⟩
    exact notType f hf (List.mem_singleton.2 named)
  have own : withoutFields ["type"] (("type", .string kind.type.name) :: kind.ownFields) =
      kind.ownFields := by
    rw [withoutFields, List.filter_cons_of_neg (by simp), List.filter_eq_self]
    intro f hf
    exact decide_eq_true (notType f hf)
  have type : requiredField "type" (Json.decodeNameOrNumber ShapeType.names)
      (("type", .string kind.type.name) :: kind.ownFields) = .ok kind.type :=
    requiredField_eq_ok_iff.2 ⟨_, List.lookup_cons_self, ShapeType.decode_name kind.type⟩
  rw [ofFields, Except.bind_eq_ok_iff]
  refine ⟨(), distinct.passes (List.forall_mem_singleton.2 (accepts_of_requiredField type)), ?_⟩
  refine Except.bind_eq_ok_iff.2 ⟨_, type, ?_⟩
  rw [own]
  exact Except.bind_eq_ok_iff.2 ⟨(), passes, decoded⟩

end ShapeKind

/-! ### Shapes -/

namespace Shape

variable {s : Shape}

/-- The record that a shape is written as. -/
def fields (s : Shape) : Fields Json :=
  ("id", s.id.toJson) :: ("type", .string s.kind.type.name) :: (s.kind.ownFields ++ s.traitFields)

/-- The traits are the last field, or there are none. -/
theorem traitFields_eq (s : Shape) :
    s.traits = .empty ∧ s.traitFields = [] ∨
      s.traitFields = [("traits", .array (s.traits.toList.map Trait.toJson))] := by
  unfold traitFields
  cases none : s.traits.isEmpty with
  | true =>
    refine .inl ⟨?_, rfl⟩
    exact congrArg TraitSet.mk (List.isEmpty_iff.1 none)
  | false => exact .inr rfl

theorem name_of_mem_traitFields : ∀ f ∈ s.traitFields, f.1 = "traits" := by
  rcases s.traitFields_eq with ⟨-, none⟩ | some
  · simp [none]
  · simp [some]

theorem distinct_fields (s : Shape) : s.fields.Distinct := by
  rw [Fields.Distinct, fields]
  -- nothing but the kind and the presence of traits decides about the names
  rcases s.traitFields_eq with ⟨-, traits⟩ | traits
  · rw [traits]
    cases s.kind <;> simp [ShapeKind.ownFields]
  · rw [traits]
    cases s.kind <;> simp [ShapeKind.ownFields]

/-- **Without what belongs to every shape, the type and the fields of the kind are left.** -/
theorem withoutFields_fields (s : Shape) : withoutFields ["id", "traits"] s.fields =
    ("type", .string s.kind.type.name) :: s.kind.ownFields := by
  have own : s.kind.ownFields.filter (fun f => f.1 ∉ ["id", "traits"]) = s.kind.ownFields := by
    rw [List.filter_eq_self]
    intro f hf
    have notShared := ShapeKind.name_not_shared f hf
    refine decide_eq_true fun shared => notShared ?_
    rcases List.mem_pair.1 shared with named | named <;> simp [named, ShapeKind.sharedNames]
  have traits : s.traitFields.filter (fun f => f.1 ∉ ["id", "traits"]) = [] := by
    rw [List.filter_eq_nil_iff]
    intro f hf
    simp [name_of_mem_traitFields f hf]
  rw [withoutFields, fields, List.filter_cons_of_neg (by simp), List.filter_cons_of_pos (by simp),
    List.filter_append, own, traits, List.append_nil]

/-- The traits are read back, also where their field is left out. -/
theorem optionalField_traits (readable : s.Readable) :
    optionalField "traits" .empty TraitSet.ofJson s.fields = .ok s.traits := by
  refine optionalField_eq_ok_iff.2 ?_
  rcases s.traitFields_eq with ⟨empty, none⟩ | some
  · -- nothing else may be found under that name
    refine .inl ⟨Fields.lookup_eq_none ?_, empty.symm⟩
    intro named
    obtain ⟨f, hf, name⟩ := List.mem_map.1 named
    rw [fields, none, List.append_nil, List.mem_cons, List.mem_cons] at hf
    rcases hf with rfl | rfl | own
    · simp at name
    · simp at name
    · exact ShapeKind.name_not_shared f own (by simp [name, ShapeKind.sharedNames])
  · refine .inr ⟨_, s.distinct_fields.lookup_of_mem ?_, TraitSet.ofJson_toJson readable.traits⟩
    rw [fields, some]
    simp

/-- **A shape is read back.** -/
theorem ofJson_toJson (readable : s.Readable) : ofJson s.toJson = .ok s := by
  have id : requiredField "id" Json.decodeId s.fields = .ok s.id :=
    requiredField_eq_ok_iff.2 ⟨_, List.lookup_cons_self, ShapeId.decode_toJson readable.id⟩
  have traits := optionalField_traits readable
  have passes : checkFields schema s.fields = .ok () := by
    refine s.distinct_fields.passes ?_
    simp only [schema, List.forall_mem_cons]
    exact ⟨accepts_of_requiredField id, accepts_of_optionalField traits,
      List.forall_mem_nil _⟩
  rw [toJson, ofJson, ← fields]
  refine Except.bind_eq_ok_iff.2 ⟨_, passes, ?_⟩
  refine Except.bind_eq_ok_iff.2 ⟨_, id, ?_⟩
  refine Except.bind_eq_ok_iff.2 ⟨_, traits, ?_⟩
  rw [withoutFields_fields]
  exact Except.bind_eq_ok_iff.2 ⟨_, ShapeKind.ofFields_type_ownFields readable.kind, rfl⟩

end Shape

/-! ### Documents -/

namespace Model

variable {m : Model}

/-- **The shapes of a document are those of the model it was written for.** -/
theorem documentShapes_toJson (readable : m.Readable) : documentShapes m.toJson = .ok m.shapes := by
  have decoded : decodeShapes (.array (m.shapes.map Shape.toJson)) = .ok m.shapes :=
    List.mapM_map_eq_ok fun s hs => Shape.ofJson_toJson (readable s hs)
  obtain ⟨passes, found, -⟩ := readSingle "shapes" decoded
  rw [toJson, documentShapes]
  exact Except.bind_eq_ok_iff.2 ⟨(), passes, found⟩

theorem ofJson_toJson (readable : m.Readable) : ofJson m.toJson = .ok m := by
  have built : ofShapes m.shapes = .ok m := ofShapes_eq_ok_iff.2 (.refl _)
  refine Except.bind_eq_ok_iff.2 ⟨_, documentShapes_toJson readable, ?_⟩
  exact Except.mapError_eq_ok_iff.2 built

end Model

end ServiceShapes
