import ServiceShapes.Proofs.Documents.Decoded
import ServiceShapes.Proofs.Documents.Writing
import ServiceShapes.Proofs.Json.Reading

/-!
# Loading what was written

`Model.load_toText` joins the three parts of the way from a model to a text and back: the document
is read back from its text, it is sound and not nested too deeply, and it is decoded as the model.

The way back exists for readable models.  Those are the models whose ids allow it, and
`Model.load_toText_of_origin` lists where they come from: every model that was loaded, and every
model that normalization makes from a readable one.
-/

namespace ServiceShapes

/-! ### The form of a document -/

theorem ShapeId.plain_listToJson (depth : Nat) (ids : List ShapeId) :
    (listToJson ids).Plain (depth + 1) := by
  refine .array fun item hitem => ?_
  obtain ⟨id, -, rfl⟩ := List.mem_map.1 hitem
  exact .string id.toText

theorem ShapeId.plain_nullable (depth : Nat) (id : Option ShapeId) :
    (id.elim .null toJson).Plain depth := by
  cases id with
  | none => exact .null
  | some id => exact .string id.toText

theorem Trait.plain_toJson (depth : Nat) (t : Trait) : t.toJson.Plain (depth + 1) := by
  refine .object ?_
  rw [List.forall_mem_cons]
  refine ⟨.string _, ?_⟩
  cases t with
  | streaming => exact List.forall_mem_nil _
  | required => exact List.forall_mem_nil _
  | error fault => exact List.forall_mem_singleton.2 (.string fault.name)
  | documentation text => exact List.forall_mem_singleton.2 (.string text)
  | syntheticInput operation => exact List.forall_mem_singleton.2 (.string operation.toText)
  | syntheticOutput operation => exact List.forall_mem_singleton.2 (.string operation.toText)

theorem ShapeKind.plain_ownFields (depth : Nat) (kind : ShapeKind) :
    ∀ f ∈ kind.ownFields, f.2.Plain (depth + 1) := by
  cases kind with
  | service operations =>
    exact List.forall_mem_singleton.2 (ShapeId.plain_listToJson depth operations)
  | operation input output errors =>
    refine List.forall_mem_cons.2 ⟨ShapeId.plain_nullable _ input, ?_⟩
    refine List.forall_mem_cons.2 ⟨ShapeId.plain_nullable _ output, ?_⟩
    exact List.forall_mem_singleton.2 (ShapeId.plain_listToJson depth errors)
  | aggregate form members =>
    exact List.forall_mem_singleton.2 (Json.plain_strings depth members)
  | member target => exact List.forall_mem_singleton.2 (.string target.toText)
  | list item => exact List.forall_mem_singleton.2 (.string item.toText)
  | map key value =>
    refine List.forall_mem_cons.2 ⟨.string key.toText, ?_⟩
    exact List.forall_mem_singleton.2 (.string value.toText)
  | simple type => exact List.forall_mem_singleton.2 (.string type.name)

theorem Shape.plain_toJson (depth : Nat) (s : Shape) : s.toJson.Plain (depth + 3) := by
  refine .object ?_
  rw [List.forall_mem_cons, List.forall_mem_cons, List.forall_mem_append]
  refine ⟨.string _, .string _, s.kind.plain_ownFields (depth + 1), ?_⟩
  rcases s.traitFields_eq with ⟨-, none⟩ | some
  · rw [none]
    exact List.forall_mem_nil _
  · rw [some, List.forall_mem_singleton]
    refine .array fun item hitem => ?_
    obtain ⟨t, -, rfl⟩ := List.mem_map.1 hitem
    exact t.plain_toJson depth

namespace Model

variable {m : Model}

theorem plain_shapes (depth : Nat) (m : Model) :
    (Json.array (m.shapes.map Shape.toJson)).Plain (depth + 4) := by
  refine .array fun item hitem => ?_
  obtain ⟨s, -, rfl⟩ := List.mem_map.1 hitem
  exact s.plain_toJson depth

theorem plain_toJson (depth : Nat) (m : Model) : m.toJson.Plain (depth + 5) :=
  .object (List.forall_mem_singleton.2 (m.plain_shapes depth))

/-- A document is never nested too deeply. -/
theorem usable_toJson (m : Model) : usable m.toJson = true := by
  have used : usedPart? m.toJson = some (.array (m.shapes.map Shape.toJson)) := rfl
  rw [usable, used]
  exact Json.fits_of_plain (m.plain_shapes 122)

/-! ### The way back -/

/-- **A readable model is loaded from its text.** -/
theorem load_toText (readable : m.Readable) : load m.toText = .ok m := by
  -- only the first step reads text; the document it gives is the one that was written
  refine load_eq_ok_iff.2 ⟨m.toJson, ?_, m.usable_toJson, ofJson_toJson readable⟩
  rw [toText, Json.toText, String.toList_ofList]
  exact Json.read?_print (m.plain_toJson 0)

/-- Only readable models have a way back. -/
theorem load_toText_iff : load m.toText = .ok m ↔ m.Readable :=
  ⟨readable_of_load, load_toText⟩

/-- **Loading undoes writing**: for every readable model, hence for every model that was loaded from
some text and for every model that normalization makes from one of these.  What is loaded is readable
because decoders make ids from texts only (`readable_of_load`), and the ids that normalization makes
are readable if those of the operations are (`Readable.normalize`). -/
theorem load_toText_of_origin :
    (∀ m : Model, m.Readable → load m.toText = .ok m) ∧
    (∀ (text : String) (m : Model), load text = .ok m → load m.toText = .ok m) ∧
    (∀ m m' : Model, (m.Readable ∨ ∃ text, load text = .ok m) → m.normalize = .ok m' →
      load m'.toText = .ok m') := by
  refine ⟨fun m readable => load_toText readable, fun text m loaded => ?_, ?_⟩
  · exact load_toText (readable_of_load loaded)
  · intro m m' origin normalized
    have readable : m.Readable := by
      rcases origin with readable | ⟨text, loaded⟩
      · exact readable
      · exact readable_of_load loaded
    exact load_toText (readable.normalize normalized)

/-- A model with a shape of every kind, some with several traits of one kind and some without
traits. -/
def everyKind : Model where
  shapes :=
    [⟨.ofName "a" "Amount", .simple .long, ⟨[.documentation "\"ü\"\n"]⟩⟩,
     ⟨.ofName "a" "Chat", .service [.ofName "a" "Say", .ofName "b" "Gone"], .empty⟩,
     ⟨.ofName "a" "Event", .aggregate .union ["größe"], ⟨[.streaming, .required]⟩⟩,
     ⟨(ShapeId.ofName "a" "Event").withMember "größe", .member (.ofName "a" "Amount"), .empty⟩,
     ⟨.ofName "a" "Lines", .list (.ofName "a" "Amount"), .empty⟩,
     ⟨.ofName "a" "Say", .operation none (some (.ofName "a" "Event")) [.ofName "b" "Gone"], .empty⟩,
     ⟨.ofName "a" "Table", .map (.ofName "b" "Key") (.ofName "a" "Amount"), .empty⟩,
     ⟨.ofName "a" "Text", .aggregate .record [],
       ⟨[.error .client, .error .server, .syntheticInput (.ofName "a" "Ask")]⟩⟩]
  sorted := by decide

/-- A document in another form than documents are written in. -/
def liberalText : String :=
  "[[\x7b\"simple\":\"blob\",\"id\":\"a#T\",\"traits\":[[\"required\"]],\"type\":\"simple\"\x7d]]"

/-- The way back for a model with everything in it, for one that was loaded from another form of
document, and for a normalized one. -/
theorem everyKind_load_toText :
    load everyKind.toText = .ok everyKind ∧
    (∃ m, load liberalText = .ok m ∧ load m.toText = .ok m ∧ m.size = 1) ∧
    ∃ m', everyKind.normalize = .ok m' ∧ load m'.toText = .ok m' ∧ m'.size = 11 := by
  obtain ⟨ofReadable, ofLoaded, ofNormalized⟩ := load_toText_of_origin
  have readable : everyKind.Readable := by decide
  refine ⟨ofReadable everyKind readable, ?_, ?_⟩
  · let document : Json := .array [.array [.object
      [("simple", .string "blob"), ("id", .string "a#T"),
       ("traits", .array [.array [.string "required"]]), ("type", .string "simple")]]]
    have read : Json.read? liberalText.toList = some document := rfl
    have decoded : ∃ m, ofJson document = .ok m ∧ m.size = 1 := ⟨_, rfl, rfl⟩
    obtain ⟨m, decoded, size⟩ := decoded
    have loaded : load liberalText = .ok m := load_eq_ok_iff.2 ⟨document, read, rfl, decoded⟩
    exact ⟨m, loaded, ofLoaded liberalText m loaded, size⟩
  · have normal : ∃ m', everyKind.normalize = .ok m' ∧ m'.size = 11 := ⟨_, rfl, rfl⟩
    obtain ⟨m', normalized, size⟩ := normal
    exact ⟨m', normalized, ofNormalized everyKind m' (.inl readable) normalized, size⟩

end Model

end ServiceShapes
