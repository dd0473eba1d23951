import ServiceShapes.Proofs.Documents.Decoded
import ServiceShapes.Proofs.Documents.Rearranged
import ServiceShapes.Proofs.Json.Reading

/-!
# The order of fields, and fields that no one reads

A document says the same in whatever order the fields of its objects stand, and whatever fields with other
names stand between them.  `Trait.Rearranged`, `Shape.Rearranged` and `Model.Rearranged` say how the
document may change at each level, and `Model.load_of_rearranged` that the same model is loaded.

A shape is read in turns: first what every shape has, then the type, then the fields of that type, each time
from what is left.  So a name is free in a shape when none of the readers that take their turn asks for it,
and which these are depends on the type.  The values of new fields have to be sound, and not nested more
deeply than is left inside of what is around them; at the top of a document no one looks at them at all.
-/

namespace ServiceShapes

/-! ### Names in use -/

/-- The names of the fields that a trait of a kind has besides the kind. -/
def TraitKind.fieldNames : TraitKind → List String
  | .streaming | .required => []
  | .error => ["fault"]
  | .documentation => ["text"]
  | .syntheticInput | .syntheticOutput => ["operation"]

/-- The names of the fields that shapes of a type have besides those of all shapes. -/
def ShapeType.fieldNames : ShapeType → List String
  | .service => ["operations"]
  | .operation => ["input", "output", "errors"]
  | .record | .union => ["members"]
  | .member => ["target"]
  | .list => ["member"]
  | .map => ["key", "value"]
  | .simple => ["simple"]

/-- The only field that is read of a trait has the name that its kind gives it. -/
theorem Trait.fieldNames_of_fieldOf {kind : TraitKind} {name : String} {decode : Json → Decoded Trait}
    (field : fieldOf kind = some (name, decode)) : kind.fieldNames = [name] := by
  cases kind <;> cases field <;> rfl

/-- The fields that are checked in a shape are those of its type. -/
theorem ShapeKind.names_schema (type : ShapeType) : (schema type).map (·.1) = type.fieldNames := by
  cases type <;> rfl

/-! ### Rearranged documents -/

/-- In the field of the given name, the items of an array may be related to the old ones; elsewhere values
stay as they are. -/
def Json.ChangedIn (field : String) (R : Json → Json → Prop) (name : String) (v v' : Json) : Prop :=
  v = v' ∨ name = field ∧
    ∃ items items', v = .array items ∧ v' = .array items' ∧ List.Forall₂ R items items'

/-- A trait with its fields in another order and with fields that its kind does not have.  Four arrays and
objects stand around a trait, which itself is one. -/
inductive Trait.Rearranged : Json → Json → Prop
  | same (value : Json) : Rearranged value value
  | object {fields fields' : Fields Json} {kind : TraitKind}
      (kindOf : requiredField "kind" (Json.decodeName TraitKind.names) fields = .ok kind)
      (rearranged : fields.Rearranged ("kind" :: kind.fieldNames)
        (fun value => value.fits (maxDepth - 5) = true) (fun _ => Eq) fields') :
      Rearranged (.object fields) (.object fields')

/-- A shape with its fields in another order and with fields that its type does not have.  Its traits may be
rearranged as well. -/
inductive Shape.Rearranged : Json → Json → Prop
  | same (value : Json) : Rearranged value value
  | object {fields fields' : Fields Json} {type : ShapeType}
      (typeOf : requiredField "type" (Json.decodeNameOrNumber ShapeType.names) fields = .ok type)
      (rearranged : fields.Rearranged ("id" :: "traits" :: "type" :: type.fieldNames)
        (fun value => value.fits (maxDepth - 3) = true)
        (Json.ChangedIn "traits" Trait.Rearranged) fields') :
      Rearranged (.object fields) (.object fields')

/-- A document with its fields in another order and with further fields, or one in the form of an array.  Its
shapes may be rearranged. -/
inductive Model.Rearranged : Json → Json → Prop
  | object {fields fields' : Fields Json}
      (rearranged : fields.Rearranged ["shapes"] (fun _ => True)
        (Json.ChangedIn "shapes" Shape.Rearranged) fields') :
      Rearranged (.object fields) (.object fields')
  | array {v v' : Json} (changed : Json.ChangedIn "shapes" Shape.Rearranged "shapes" v v') :
      Rearranged (.array [v]) (.array [v'])

/-! ### Reading changed values -/

namespace Json.ChangedIn

variable {α : Type} {field name : String} {R : Json → Json → Prop} {decode : Json → Decoded α}
  {v v' : Json}

theorem eq_of_ne (changed : ChangedIn field R name v v') (other : name ≠ field) : v = v' := by
  rcases changed with same | ⟨equal, -⟩
  · exact same
  · exact absurd equal other

theorem preserves_of_ne (other : name ≠ field) (decode : Json → Decoded α) :
    Preserves (ChangedIn field R name) decode :=
  preserves_of_eq (fun _ _ changed => changed.eq_of_ne other) decode

/-- **A list is read as before if its items are.** -/
theorem preserves_decodeList (preserves : Preserves R decode) :
    Preserves (ChangedIn field R name) (decodeList decode) := by
  rintro v v' l (rfl | ⟨-, items, items', rfl, rfl, related⟩) read
  · exact read
  · have each := List.mapM_eq_ok_iff.1 read
    refine List.mapM_eq_ok_iff.2 ?_
    clear read
    induction related generalizing l with
    | nil => exact each
    | cons first _ ih =>
      obtain ⟨x, rest, read, others, rfl⟩ := List.forall₂_cons_left_iff.1 each
      exact .cons (preserves _ _ x first read) (ih rest others)

theorem fits {depth : Nat} (keeps : ∀ v v', R v v' → v.fits depth = true → v'.fits depth = true)
    (changed : ChangedIn field R name v v') (sound : v.fits (depth + 1) = true) :
    v'.fits (depth + 1) = true := by
  rcases changed with rfl | ⟨-, items, items', rfl, rfl, related⟩
  · exact sound
  · rw [Json.fits, fitsAll_iff] at sound ⊢
    intro item' mem
    obtain ⟨item, old, kept⟩ := related.exists_of_mem_right mem
    exact keeps item item' kept (sound item old)

end Json.ChangedIn

theorem Fields.Rearranged.fits {fields fields' : Fields Json} {used : List String}
    {Same : String → Json → Json → Prop} {depth : Nat}
    (h : fields.Rearranged used (fun value => value.fits depth = true) Same fields')
    (keeps : ∀ name v v', Same name v v' → v.fits depth = true → v'.fits depth = true)
    (sound : (Json.object fields).fits (depth + 1) = true) :
    (Json.object fields').fits (depth + 1) = true := by
  rw [Json.fits, Json.fitsFields_iff] at sound ⊢
  intro f' mem
  rcases h.of_mem mem with ⟨f, old, -, same⟩ | ⟨-, fits⟩
  · exact keeps f.1 f.2 f'.2 same (sound f old)
  · exact fits

/-! ### Traits -/

namespace Trait

variable {v v' : Json} {t : Trait}

theorem ofFields_of_rearranged {kind : TraitKind} {fields fields' : Fields Json} {used : List String}
    {allowed : Json → Prop} (h : fields.Rearranged used allowed (fun _ => Eq) fields')
    (use : ∀ name ∈ kind.fieldNames, name ∈ used) (read : ofFields kind fields = .ok t) :
    ofFields kind fields' = .ok t := by
  unfold ofFields at read ⊢
  split at read
  · exact read
  · rename_i name decode field
    have named : name ∈ used := use name (by simp [fieldNames_of_fieldOf field])
    obtain ⟨⟨⟩, passes, read⟩ := Except.bind_eq_ok_iff.1 read
    have once := once_of_checkFields passes List.mem_cons_self
    refine Except.bind_eq_ok_iff.2 ⟨(), h.checkFields ?_ ?_ passes, ?_⟩
    · simpa using named
    · exact fun known _ => preserves_eq known.2
    · exact h.requiredField named once (preserves_eq decode) read

/-- **A rearranged trait is read as the same trait.** -/
theorem preserves_ofJson : Preserves Trait.Rearranged ofJson := by
  rintro v v' t (_ | ⟨kindOf, h⟩) read
  · exact read
  · obtain ⟨⟨⟩, passes, read⟩ := Except.bind_eq_ok_iff.1 read
    obtain ⟨kind', kindOf', read⟩ := Except.bind_eq_ok_iff.1 read
    cases kindOf.symm.trans kindOf'
    have once := once_of_checkFields passes List.mem_cons_self
    refine Except.bind_eq_ok_iff.2 ⟨(), h.checkFields ?_ ?_ passes, ?_⟩
    · simp
    · exact fun known _ => preserves_eq known.2
    refine Except.bind_eq_ok_iff.2 ⟨_, h.requiredField List.mem_cons_self once
      (preserves_eq _) kindOf', ?_⟩
    exact ofFields_of_rearranged (h.withoutFields ["kind"])
      (fun name mem => List.mem_cons_of_mem _ mem) read

theorem Rearranged.fits (h : Trait.Rearranged v v') (sound : v.fits (maxDepth - 4) = true) :
    v'.fits (maxDepth - 4) = true := by
  cases h with
  | same => exact sound
  | object _ rearranged => exact rearranged.fits (fun _ _ _ same => same ▸ id) sound

end Trait

/-! ### Kinds of shapes -/

namespace ShapeKind

variable {fields fields' : Fields Json} {type : ShapeType} {kind : ShapeKind} {used : List String}
  {allowed : Json → Prop}

/-- Nothing but what is found under the names of its type decides about a kind of shape. -/
theorem ofCheckedFields_congr
    (same : ∀ name ∈ type.fieldNames, fields'.lookup name = fields.lookup name) :
    ofCheckedFields fields' type = ofCheckedFields fields type := by
  cases type <;> simp_all [ofCheckedFields, optionalField, requiredField, ShapeType.fieldNames]

theorem ofFields_of_rearranged (h : fields.Rearranged used allowed (fun _ => Eq) fields')
    (typeOf : requiredField "type" (Json.decodeNameOrNumber ShapeType.names) fields = .ok type)
    (useType : "type" ∈ used) (use : ∀ name ∈ type.fieldNames, name ∈ used)
    (read : ofFields fields = .ok kind) : ofFields fields' = .ok kind := by
  obtain ⟨⟨⟩, passes, read⟩ := Except.bind_eq_ok_iff.1 read
  obtain ⟨type', typeOf', read⟩ := Except.bind_eq_ok_iff.1 read
  cases typeOf.symm.trans typeOf'
  obtain ⟨⟨⟩, ownPasses, read⟩ := Except.bind_eq_ok_iff.1 read
  have once := once_of_checkFields passes List.mem_cons_self
  have typeOf'' := h.requiredField useType once (preserves_eq _) typeOf
  have own := h.withoutFields ["type"]
  refine Except.bind_eq_ok_iff.2 ⟨(), h.checkFields ?_ (fun known _ => preserves_eq known.2) passes, ?_⟩
  · simpa using useType
  refine Except.bind_eq_ok_iff.2 ⟨type, typeOf'', ?_⟩
  refine Except.bind_eq_ok_iff.2
    ⟨(), own.checkFields ?_ (fun known _ => preserves_eq known.2) ownPasses, ?_⟩
  · rwa [names_schema]
  · rw [← read]
    refine ofCheckedFields_congr fun name mem => own.lookup_eq (use name mem) ?_
    exact once_of_checkFields ownPasses (by rwa [names_schema])

end ShapeKind

/-! ### Shapes -/

theorem TraitSet.preserves_ofJson :
    Preserves (Json.ChangedIn "traits" Trait.Rearranged "traits") ofJson := by
  intro v v' set changed read
  obtain ⟨l, items, rfl⟩ := Except.map_eq_ok_iff.1 read
  have items' := Json.ChangedIn.preserves_decodeList Trait.preserves_ofJson v v' l changed items
  exact Except.map_eq_ok_iff.2 ⟨l, items', rfl⟩

namespace Shape

variable {v v' : Json} {fields fields' : Fields Json} {used : List String} {allowed : Json → Prop}

/-- What is left for the kind of a shape has the values that it had. -/
theorem rearranged_withoutFields {R : Json → Json → Prop}
    (h : fields.Rearranged used allowed (Json.ChangedIn "traits" R) fields') :
    (withoutFields ["id", "traits"] fields).Rearranged used allowed (fun _ => Eq)
      (withoutFields ["id", "traits"] fields') := by
  refine (h.withoutFields _).of_unchanged fun f mem value changed => ?_
  refine changed.eq_of_ne fun named => ?_
  simp [withoutFields, named] at mem

/-- **A rearranged shape is read as the same shape.** -/
theorem preserves_ofJson : Preserves Shape.Rearranged ofJson := by
  rintro v v' s (_ | @⟨fields, fields', type, typeOf, h⟩) read
  · exact read
  · obtain ⟨⟨⟩, passes, read⟩ := Except.bind_eq_ok_iff.1 read
    obtain ⟨id, idRead, read⟩ := Except.bind_eq_ok_iff.1 read
    obtain ⟨traits, traitsRead, read⟩ := Except.bind_eq_ok_iff.1 read
    obtain ⟨kind, kindRead, read⟩ := Except.bind_eq_ok_iff.1 read
    have readsId : Preserves (Json.ChangedIn "traits" Trait.Rearranged "id") Json.decodeId :=
      Json.ChangedIn.preserves_of_ne (by decide) _
    have readsTraits := TraitSet.preserves_ofJson
    have idOnce : fields.Once "id" := once_of_checkFields passes (by simp [schema])
    have traitsOnce : fields.Once "traits" := once_of_checkFields passes (by simp [schema])
    have typeOf' : requiredField "type" (Json.decodeNameOrNumber ShapeType.names)
        (withoutFields ["id", "traits"] fields) = .ok type := by
      rwa [requiredField, lookup_withoutFields (by decide)]
    refine Except.bind_eq_ok_iff.2 ⟨(), h.checkFields ?_ ?_ passes, ?_⟩
    · simp [schema]
    · simp only [schema, List.forall_mem_cons]
      exact ⟨readsId.accepts, readsTraits.accepts, List.forall_mem_nil _⟩
    refine Except.bind_eq_ok_iff.2 ⟨id, h.requiredField (by simp) idOnce readsId idRead, ?_⟩
    refine Except.bind_eq_ok_iff.2
      ⟨traits, h.optionalField (by simp) traitsOnce readsTraits traitsRead, ?_⟩
    refine Except.bind_eq_ok_iff.2 ⟨kind, ?_, read⟩
    exact ShapeKind.ofFields_of_rearranged (rearranged_withoutFields h) typeOf' (by simp)
      (by simp +contextual) kindRead

theorem Rearranged.fits (h : Shape.Rearranged v v') (sound : v.fits (maxDepth - 2) = true) :
    v'.fits (maxDepth - 2) = true := by
  cases h with
  | same => exact sound
  | object _ rearranged =>
    exact rearranged.fits (fun _ _ _ changed => changed.fits fun _ _ h => Trait.Rearranged.fits h) sound

end Shape

/-! ### Documents -/

namespace Model

variable {m : Model} {document document' : Json} {text text' : String}

theorem preserves_decodeShapes :
    Preserves (Json.ChangedIn "shapes" Shape.Rearranged "shapes") decodeShapes :=
  Json.ChangedIn.preserves_decodeList Shape.preserves_ofJson

/-- **A rearranged document lists the same shapes.** -/
theorem preserves_documentShapes : Preserves Model.Rearranged documentShapes := by
  rintro document document' shapes (h | changed) read
  · obtain ⟨⟨⟩, passes, read⟩ := Except.bind_eq_ok_iff.1 read
    have once := once_of_checkFields passes List.mem_cons_self
    refine Except.bind_eq_ok_iff.2 ⟨(), h.checkFields ?_ ?_ passes, ?_⟩
    · simp
    · exact List.forall_mem_singleton.2 preserves_decodeShapes.accepts
    · exact h.requiredField List.mem_cons_self once preserves_decodeShapes read
  · obtain ⟨shapes', read, rest⟩ := Except.bind_eq_ok_iff.1 read
    exact Except.bind_eq_ok_iff.2 ⟨shapes', preserves_decodeShapes _ _ shapes' changed read, rest⟩

theorem usable_object {fields : Fields Json} :
    usable (.object fields) = (fields.lookup "shapes").all (Json.fits (maxDepth - 1)) := rfl

/-- What is looked at of a rearranged document is as sound as it was.  The document has to list shapes, so
that what is looked at is the only field of its name. -/
theorem usable_of_rearranged (h : Rearranged document document') {shapes : List Shape}
    (listed : documentShapes document = .ok shapes) (sound : usable document = true) :
    usable document' = true := by
  have keeps {v v' : Json} (changed : Json.ChangedIn "shapes" Shape.Rearranged "shapes" v v') :
      v.fits (maxDepth - 1) = true → v'.fits (maxDepth - 1) = true :=
    changed.fits fun _ _ h => Shape.Rearranged.fits h
  cases h with
  | @object fields fields' h =>
    obtain ⟨⟨⟩, passes, -⟩ := Except.bind_eq_ok_iff.1 listed
    have related := h.lookup List.mem_cons_self (once_of_checkFields passes List.mem_cons_self)
    rw [usable_object] at sound ⊢
    revert sound related
    generalize fields.lookup "shapes" = before, fields'.lookup "shapes" = after
    rintro sound (changed | _)
    · exact keeps changed sound
    · rfl
  | array changed => exact keeps changed sound

/-- The second text is a document like the first, up to the order of fields and fields that no one reads. -/
def RearrangedText (text text' : String) : Prop :=
  ∃ document document', Json.read? text.toList = some document ∧
    Json.read? text'.toList = some document' ∧ Rearranged document document'

/-- **Neither the order of fields nor unknown fields matter.**  Whatever text is loaded, the same model is
loaded from a text with the fields of the document, of its shapes and of their traits in another order, and
with further fields between them under names that are not used there. -/
theorem load_of_rearranged (h : RearrangedText text text') (loaded : load text = .ok m) :
    load text' = .ok m := by
  obtain ⟨document, document', read, read', rearranged⟩ := h
  obtain ⟨_, found, sound, decoded⟩ := load_eq_ok_iff.1 loaded
  cases read.symm.trans found
  obtain ⟨shapes, listed, built⟩ := Except.bind_eq_ok_iff.1 decoded
  have listed' := preserves_documentShapes _ _ shapes rearranged listed
  refine load_eq_ok_iff.2 ⟨document', read', usable_of_rearranged rearranged listed sound, ?_⟩
  exact Except.bind_eq_ok_iff.2 ⟨shapes, listed', built⟩

/-- A document with one shape, written as documents are. -/
def plainText : String :=
  "\x7b\"shapes\":[\x7b\"id\":\"a#T\",\"type\":\"union\",
    \"traits\":[\x7b\"kind\":\"error\",\"fault\":\"client\"\x7d]\x7d]\x7d"

/-- The same document with all fields the other way round.  What has been added fits neither the type of the
shape nor the kind of the trait. -/
def paddedText : String :=
  "\x7b\"version\":1,\"shapes\":[\x7b\"simple\":true,\"traits\":
    [\x7b\"text\":[],\"fault\":\"client\",\"kind\":\"error\"\x7d],
    \"type\":\"union\",\"id\":\"a#T\"\x7d]\x7d"

set_option maxRecDepth 1000 in
/-- Both texts are loaded as the same model. -/
theorem paddedText_load :
    let m : Model := ⟨[⟨.ofName "a" "T", .aggregate .union [], ⟨[.error .client]⟩⟩], by decide⟩
    RearrangedText plainText paddedText ∧ load plainText = .ok m ∧ load paddedText = .ok m := by
  intro m
  let kind : String × Json := ("kind", .string "error")
  let fault : String × Json := ("fault", .string "client")
  let text : String × Json := ("text", .array [])
  have trait : Trait.Rearranged (.object [kind, fault]) (.object [text, fault, kind]) := by
    refine @Trait.Rearranged.object _ _ .error rfl ⟨[kind, fault], [text], ?_, ?_, ?_⟩
    · exact List.reverse_perm [kind, fault, text]
    · exact .cons ⟨rfl, rfl⟩ (.cons ⟨rfl, rfl⟩ .nil)
    · exact List.forall_mem_singleton.2 ⟨by decide, rfl⟩
  let id : String × Json := ("id", .string "a#T")
  let type : String × Json := ("type", .string "union")
  let traits : String × Json := ("traits", .array [.object [text, fault, kind]])
  let simple : String × Json := ("simple", .boolean true)
  let plain : Json := .object [id, type, ("traits", .array [.object [kind, fault]])]
  let padded : Json := .object [simple, traits, type, id]
  have shape : Shape.Rearranged plain padded := by
    refine @Shape.Rearranged.object _ _ .union rfl ⟨[id, type, traits], [simple], ?_, ?_, ?_⟩
    · exact List.reverse_perm [id, type, traits, simple]
    · refine .cons ⟨rfl, .inl rfl⟩ (.cons ⟨rfl, .inl rfl⟩ (.cons ?_ .nil))
      exact ⟨rfl, .inr ⟨rfl, _, _, rfl, rfl, .cons trait .nil⟩⟩
    · exact List.forall_mem_singleton.2 ⟨by decide, rfl⟩
  let version : String × Json := ("version", .integer 1)
  let shapes : String × Json := ("shapes", .array [padded])
  have read : Json.read? plainText.toList = some (.object [("shapes", .array [plain])]) :=
    (congrArg Json.read? String.toList_ofList).trans rfl
  have read' : Json.read? paddedText.toList = some (.object [version, shapes]) :=
    (congrArg Json.read? String.toList_ofList).trans rfl
  have rearranged : RearrangedText plainText paddedText := by
    refine ⟨_, _, read, read', .object ⟨[shapes], [version], .swap _ _ _, .cons ?_ .nil, ?_⟩⟩
    · exact ⟨rfl, .inr ⟨rfl, _, _, rfl, rfl, .cons shape .nil⟩⟩
    · exact List.forall_mem_singleton.2 ⟨by decide, trivial⟩
  have loaded : load plainText = .ok m := by
    refine load_eq_ok_iff.2 ⟨_, read, rfl, Except.bind_eq_ok_iff.2 ⟨m.shapes, rfl, ?_⟩⟩
    exact Except.mapError_eq_ok_iff.2 (ofShapes_eq_ok_iff.2 (.refl _))
  exact ⟨rearranged, loaded, load_of_rearranged rearranged loaded⟩

end Model

end ServiceShapes
