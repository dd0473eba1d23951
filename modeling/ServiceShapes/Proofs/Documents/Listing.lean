import Mathlib.Data.List.Perm.Basic
import ServiceShapes.Proofs.Building
import ServiceShapes.Proofs.Documents.Decoded

/-!
# Models and the lists they are made of

A list of shapes goes into a model whole: what is looked up in the model is what stands in the list
(`Model.Represents`), in whatever order it stands there.  The one thing that can go wrong is that an id
comes twice, and the error names the first id that does (`Model.FirstRepetition`).

`Model.BuiltFaithfully` says so of any way from a list to a model.  Building the model from shapes is one
(`Model.builtFaithfully_ofShapes`), and loading a text that lists the shapes is another
(`Model.Lists.builtFaithfully`), since changing the form of an error keeps faith.
-/

namespace ServiceShapes.Model

variable {m : Model} {l l' : List Shape} {id : ShapeId} {document document' : Json}
  {text text' : String}

/-- The model is the list without its order: it holds the same shapes, finds each of them under its id and
no other, and lists them in increasing order of their ids. -/
structure Represents (m : Model) (l : List Shape) : Prop where
  listed : m.shapes.Perm l
  increasing : m.shapes.Pairwise fun a b => a.id < b.id
  size_eq : m.size = l.length
  found_iff : ∀ id s, m.get? id = some s ↔ s ∈ l ∧ s.id = id

/-- The id belongs to the first shape of the list whose id an earlier shape has. -/
def FirstRepetition (l : List Shape) (id : ShapeId) : Prop :=
  ∃ before s after, l = before ++ s :: after ∧ (before.map (·.id)).Nodup ∧
    s.id ∈ before.map (·.id) ∧ s.id = id

/-- The list is made into a model that represents it, unless an id comes twice; then the error is the one
for the first that does. -/
structure BuiltFaithfully {ε : Type} (l : List Shape) (repeated : ShapeId → ε)
    (result : Except ε Model) : Prop where
  ok_iff : (∃ m, result = .ok m) ↔ (l.map (·.id)).Nodup
  error_iff : ∀ e, result = .error e ↔ ∃ id, FirstRepetition l id ∧ repeated id = e
  represents : ∀ m, result = .ok m → m.Represents l

/-! ### Building -/

theorem represents_of_perm (listed : m.shapes.Perm l) : m.Represents l where
  listed := listed
  increasing := m.sorted
  size_eq := listed.length_eq
  found_iff id s := by rw [get?_eq_some_iff, listed.mem_iff]

/-- **Building a model from shapes is faithful.** -/
theorem builtFaithfully_ofShapes (l : List Shape) :
    BuiltFaithfully l .duplicateShape (ofShapes l) where
  ok_iff := exists_ofShapes_eq_ok_iff
  error_iff e := by
    rw [ofShapes_eq_error_iff]
    constructor
    · rintro ⟨before, s, after, split, distinct, taken, rfl⟩
      exact ⟨s.id, ⟨before, s, after, split, distinct, taken, rfl⟩, rfl⟩
    · rintro ⟨id, ⟨before, s, after, split, distinct, taken, rfl⟩, rfl⟩
      exact ⟨before, s, after, split, distinct, taken, rfl⟩
  represents m built := represents_of_perm (ofShapes_eq_ok_iff.1 built)

/-- **The order of the shapes has no say.** -/
theorem ofShapes_of_perm (perm : l'.Perm l) (built : ofShapes l = .ok m) : ofShapes l' = .ok m :=
  ofShapes_eq_ok_iff.2 ((ofShapes_eq_ok_iff.1 built).trans perm.symm)

/-- Errors may be told in another form. -/
theorem BuiltFaithfully.mapError {ε ε' : Type} {repeated : ShapeId → ε} {result : Except ε Model}
    (faithful : BuiltFaithfully l repeated result) (f : ε → ε') :
    BuiltFaithfully l (fun id => f (repeated id)) (result.mapError f) where
  ok_iff := by
    simp only [Except.mapError_eq_ok_iff]
    exact faithful.ok_iff
  error_iff e' := by
    rw [Except.mapError_eq_error_iff]
    constructor
    · rintro ⟨e, failed, rfl⟩
      obtain ⟨id, first, rfl⟩ := (faithful.error_iff e).1 failed
      exact ⟨id, first, rfl⟩
    · rintro ⟨id, first, rfl⟩
      exact ⟨repeated id, (faithful.error_iff _).2 ⟨id, first, rfl⟩, rfl⟩
  represents m built := faithful.represents m (Except.mapError_eq_ok_iff.1 built)

/-! ### Loading -/

/-- The text is a document that lists these shapes. -/
structure Lists (text : String) (document : Json) (l : List Shape) : Prop where
  read : Json.read? text.toList = some document
  usable : usable document = true
  shapes : documentShapes document = .ok l

/-- Loading is building, with another form of errors. -/
theorem Lists.load_eq (lists : Lists text document l) :
    load text = ((ofShapes l).mapError .refused).mapError .undecodable := by
  have decoded : ofJson document = (ofShapes l).mapError .refused := by
    rw [ofJson, lists.shapes]
    rfl
  unfold load
  rw [lists.read]
  simp only [lists.usable, if_true, decoded]

/-- **Loading a text that lists shapes is as faithful as building.** -/
theorem Lists.builtFaithfully (lists : Lists text document l) :
    BuiltFaithfully l (fun id => .undecodable (.refused (.duplicateShape id))) (load text) := by
  rw [lists.load_eq]
  exact ((builtFaithfully_ofShapes l).mapError _).mapError _

theorem Lists.load_eq_ok_iff (lists : Lists text document l) :
    load text = .ok m ↔ ofShapes l = .ok m := by
  rw [lists.load_eq, Except.mapError_eq_ok_iff, Except.mapError_eq_ok_iff]

/-- Whatever is loaded lists shapes. -/
theorem exists_lists_of_load (loaded : load text = .ok m) : ∃ document l, Lists text document l := by
  obtain ⟨document, read, usable, decoded⟩ := Model.load_eq_ok_iff.1 loaded
  obtain ⟨l, shapes, -⟩ := Except.bind_eq_ok_iff.1 decoded
  exact ⟨document, l, read, usable, shapes⟩

/-- Items in another order are read as the shapes in that order. -/
theorem exists_decodeShapes_of_perm {items items' : List Json} (perm : items'.Perm items)
    (read : decodeShapes (.array items) = .ok l) :
    ∃ l', l'.Perm l ∧ decodeShapes (.array items') = .ok l' := by
  have each := List.mapM_eq_ok_iff.1 read
  obtain ⟨l', each', perm'⟩ := List.perm_comp_forall₂ perm each
  exact ⟨l', perm', List.mapM_eq_ok_iff.2 each'⟩

/-- **A model is its list of shapes without the order.**  Building succeeds exactly if no id comes twice,
and otherwise reports the first that does; the model holds the shapes of the list and nothing else, and
another order of the list gives the same model.  All of this holds of texts that list shapes as well, and
every text that is loaded does. -/
theorem builtFaithfully_ofShapes_load :
    (∀ l, BuiltFaithfully l .duplicateShape (ofShapes l) ∧
      ∀ l' m, l'.Perm l → ofShapes l = .ok m → ofShapes l' = .ok m) ∧
    (∀ text document l, Lists text document l →
      BuiltFaithfully l (fun id => .undecodable (.refused (.duplicateShape id))) (load text) ∧
      ∀ text' document' l' m, Lists text' document' l' → l'.Perm l →
        load text = .ok m → load text' = .ok m) ∧
    (∀ text m, load text = .ok m → ∃ document l, Lists text document l) ∧
    ∀ items items' l, items'.Perm items → decodeShapes (.array items) = .ok l →
      ∃ l', l'.Perm l ∧ decodeShapes (.array items') = .ok l' := by
  refine ⟨fun l => ⟨builtFaithfully_ofShapes l, fun l' m => ofShapes_of_perm⟩, ?_,
    fun text m => exists_lists_of_load, fun items items' l => exists_decodeShapes_of_perm⟩
  intro text document l lists
  refine ⟨lists.builtFaithfully, fun text' document' l' m lists' perm loaded => ?_⟩
  exact lists'.load_eq_ok_iff.2 (ofShapes_of_perm perm (lists.load_eq_ok_iff.1 loaded))

/-- A document that lists two shapes against their order. -/
def reversedText : String :=
  "\x7b\"shapes\":[\x7b\"id\":\"a#B\",\"type\":\"union\"\x7d,
    \x7b\"type\":\"list\",\"member\":\"a#B\",\"id\":\"a#A\"\x7d]\x7d"

/-- A document that lists the same shapes in order. -/
def orderedText : String :=
  "[[\x7b\"id\":\"a#A\",\"type\":\"list\",\"member\":\"a#B\"\x7d,
    \x7b\"id\":\"a#B\",\"type\":\"union\"\x7d]]"

/-- A document that lists a shape twice, behind a number beyond every double that no one looks at. -/
def repeatedText : String :=
  "\x7b\"version\":1e999,\"shapes\":[\x7b\"id\":\"a#B\",\"type\":\"union\"\x7d,
    \x7b\"id\":\"a#B\",\"type\":\"union\"\x7d]\x7d"

/-- The first two texts are loaded as the same model; of the third, the repeated id is reported.  In the
last list both ids come twice, and the one that does so first is reported. -/
theorem reversedText_builtFaithfully :
    let a : Shape := ⟨.ofName "a" "A", .list (.ofName "a" "B"), .empty⟩
    let b : Shape := ⟨.ofName "a" "B", .aggregate .union [], .empty⟩
    let m : Model := ⟨[a, b], by decide⟩
    [a, b].Perm [b, a] ∧ (∃ document, Lists reversedText document [b, a]) ∧
    load reversedText = .ok m ∧ load orderedText = .ok m ∧ m.get? a.id = some a ∧
    load repeatedText = .error (.undecodable (.refused (.duplicateShape b.id))) ∧
    ofShapes [a, b] = .ok m ∧ ofShapes [a, b, b, a] = .error (.duplicateShape b.id) := by
  intro a b m
  obtain ⟨building, loading, -, -⟩ := builtFaithfully_ofShapes_load
  have perm : [a, b].Perm [b, a] := .swap b a []
  let union : Json := .object [("id", .string "a#B"), ("type", .string "union")]
  have lists : Lists reversedText (.object [("shapes", .array [union,
      .object [("type", .string "list"), ("member", .string "a#B"), ("id", .string "a#A")]])])
      [b, a] :=
    ⟨(congrArg Json.read? String.toList_ofList).trans rfl, rfl, rfl⟩
  have lists' : Lists orderedText (.array [.array
      [.object [("id", .string "a#A"), ("type", .string "list"), ("member", .string "a#B")],
       union]]) [a, b] :=
    ⟨(congrArg Json.read? String.toList_ofList).trans rfl, rfl, rfl⟩
  have repeats : Lists repeatedText
      (.object [("version", .broken), ("shapes", .array [union, union])]) [b, b] :=
    ⟨(congrArg Json.read? String.toList_ofList).trans rfl, rfl, rfl⟩
  have built : ofShapes [b, a] = .ok m := ofShapes_eq_ok_iff.2 perm
  have loaded : load reversedText = .ok m := lists.load_eq_ok_iff.2 built
  obtain ⟨faithful, reorders⟩ := loading _ _ _ lists
  refine ⟨perm, ⟨_, lists⟩, loaded, reorders _ _ _ m lists' perm loaded, ?_, ?_,
    (building [b, a]).2 _ m perm built, ?_⟩
  · exact ((faithful.represents m loaded).found_iff a.id a).2 ⟨by simp, rfl⟩
  · exact ((loading _ _ _ repeats).1.error_iff _).2
      ⟨b.id, ⟨[b], b, [], rfl, by decide, by decide, rfl⟩, rfl⟩
  · exact ((building _).1.error_iff _).2
      ⟨b.id, ⟨[a, b], b, [a], rfl, by decide, by decide, rfl⟩, rfl⟩

end ServiceShapes.Model
