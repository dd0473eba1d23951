import ServiceShapes.Model.Error

/-!
# Reading back an id

An id is read back from its text exactly when the separators stand where the reader looks for them
(`ShapeId.Readable`): no part is empty, the namespace holds no `#` and the name no `$`.  Whatever
else the member part holds does no harm, since nothing follows it.

`ShapeId.ofText?_eq_some_iff` describes the reader completely: it accepts the texts of the readable
ids and nothing else, and gives back the id that was written.
-/

namespace ServiceShapes.ShapeId

/-- An id that can be read back from its text. -/
structure Readable (id : ShapeId) : Prop where
  ns_ne : id.ns ≠ ""
  ns_closed : '#' ∉ id.ns.toList
  name_ne : id.name ≠ ""
  name_closed : '$' ∉ id.name.toList
  member_ne : id.member ≠ some ""

instance (id : ShapeId) : Decidable id.Readable :=
  decidable_of_iff
    (id.ns ≠ "" ∧ '#' ∉ id.ns.toList ∧ id.name ≠ "" ∧ '$' ∉ id.name.toList ∧ id.member ≠ some "")
    ⟨fun ⟨a, b, c, d, e⟩ => ⟨a, b, c, d, e⟩, fun ⟨a, b, c, d, e⟩ => ⟨a, b, c, d, e⟩⟩

theorem ofList_eq_empty_iff {s : List Char} : String.ofList s = "" ↔ s = [] := by
  rw [← String.toList_eq_nil_iff, String.toList_ofList]

/-- The text of a readable id is read as that id. -/
theorem ofChars?_chars {id : ShapeId} (readable : id.Readable) : ofChars? id.chars = some id := by
  obtain ⟨ns, name, member⟩ := id
  obtain ⟨nsNe, nsClosed, nameNe, nameClosed, memberNe⟩ := readable
  -- the first separator is the one that was written, since the part before it has none
  have nsSplit (rest : List Char) :
      Text.splitFirst '#' (ns.toList ++ '#' :: rest) = some (ns.toList, rest) :=
    Text.splitFirst_eq_some_iff.2 ⟨rfl, nsClosed⟩
  rw [chars, ofChars?, List.append_assoc, List.cons_append, nsSplit]
  cases member with
  | none =>
    have nameSplit : Text.splitFirst '$' name.toList = none :=
      Text.splitFirst_eq_none_iff.2 nameClosed
    simp_all
  | some m =>
    have nameSplit : Text.splitFirst '$' (name.toList ++ '$' :: m.toList) =
        some (name.toList, m.toList) := Text.splitFirst_eq_some_iff.2 ⟨rfl, nameClosed⟩
    simp_all

/-- Parts that pass the checks of the reader make a readable id. -/
theorem readable_of_parts {ns name : List Char} {member : Option (List Char)}
    (nsClosed : '#' ∉ ns) (nameClosed : '$' ∉ name)
    (nonempty : ¬(ns.isEmpty || name.isEmpty || member == some []) = true) :
    Readable ⟨String.ofList ns, String.ofList name, member.map String.ofList⟩ := by
  simp only [Bool.or_eq_true, List.isEmpty_iff, beq_iff_eq, not_or] at nonempty
  obtain ⟨⟨nsNe, nameNe⟩, memberNe⟩ := nonempty
  refine ⟨?_, ?_, ?_, ?_, ?_⟩
  · rwa [Ne, ofList_eq_empty_iff]
  · rwa [String.toList_ofList]
  · rwa [Ne, ofList_eq_empty_iff]
  · rwa [String.toList_ofList]
  · cases member <;> simp_all

/-- What is read as an id is the text of a readable id. -/
theorem eq_chars_of_ofChars? {s : List Char} {id : ShapeId} (h : ofChars? s = some id) :
    s = id.chars ∧ id.Readable := by
  obtain ⟨⟨ns, rest⟩, nsSplit, made⟩ := Option.bind_eq_some_iff.1 h
  clear h
  obtain ⟨rfl, nsClosed⟩ := Text.splitFirst_eq_some_iff.1 nsSplit
  cases nameSplit : Text.splitFirst '$' rest with
  | none =>
    have nameClosed := Text.splitFirst_eq_none_iff.1 nameSplit
    simp only [nameSplit] at made
    split at made
    · cases made
    · rename_i nonempty
      cases made
      exact ⟨by simp [chars], readable_of_parts nsClosed nameClosed nonempty⟩
  | some parts =>
    obtain ⟨name, m⟩ := parts
    obtain ⟨rfl, nameClosed⟩ := Text.splitFirst_eq_some_iff.1 nameSplit
    simp only [nameSplit] at made
    split at made
    · cases made
    · rename_i nonempty
      cases made
      exact ⟨by simp [chars], readable_of_parts nsClosed nameClosed nonempty⟩

/-- **A text is read as an id exactly when it is the text of that id and the id is readable.** -/
theorem ofText?_eq_some_iff {s : String} {id : ShapeId} :
    ofText? s = some id ↔ s = id.toText ∧ id.Readable := by
  constructor
  · intro h
    obtain ⟨written, readable⟩ := eq_chars_of_ofChars? h
    exact ⟨by rw [toText, ← written, String.ofList_toList], readable⟩
  · rintro ⟨rfl, readable⟩
    rw [ofText?, toText, String.toList_ofList]
    exact ofChars?_chars readable

/-- Without the condition on the name, another id is read. -/
example : ofText? (ofName "a" "b$c").toText = some ((ofName "a" "b").withMember "c") := by decide

theorem parse_eq_ok_iff {s : String} {id : ShapeId} :
    parse s = .ok id ↔ s = id.toText ∧ id.Readable := by
  rw [← ofText?_eq_some_iff, parse]
  cases ofText? s <;> simp

/-- Readable ids with the same text are the same. -/
theorem eq_of_toText_eq {id id' : ShapeId} (readable : id.Readable) (readable' : id'.Readable)
    (same : id.toText = id'.toText) : id = id' := by
  have first : parse id.toText = .ok id := parse_eq_ok_iff.2 ⟨rfl, readable⟩
  have second : parse id.toText = .ok id' := parse_eq_ok_iff.2 ⟨same, readable'⟩
  exact Except.ok.inj (first.symm.trans second)

/-- **Ids and their texts correspond exactly.**  A text that is read as an id is the text of that id, an
id is read back from its text exactly if it is readable, and no two readable ids share a text.  All of it is
one equivalence, what the reader accepts and what it makes of it (`ofText?_eq_some_iff`). -/
theorem parse_toText_exact :
    (∀ s id, parse s = .ok id → id.toText = s) ∧
    (∀ id : ShapeId, parse id.toText = .ok id ↔ id.Readable) ∧
    ∀ id id' : ShapeId, id.Readable → id'.Readable → id.toText = id'.toText → id = id' := by
  refine ⟨fun s id read => ?_, fun id => ?_, fun id id' => eq_of_toText_eq⟩
  · exact (parse_eq_ok_iff.1 read).1.symm
  · rw [parse_eq_ok_iff]
    exact and_iff_right rfl

/-- Separators do no harm in the parts that are read after them. -/
theorem parse_toText_separators :
    let id : ShapeId := ⟨"a$", "b#", some "$c#"⟩
    id.Readable ∧ parse "a$#b#$$c#" = .ok id ∧ id.toText = "a$#b#$$c#" ∧
      parse id.toText = .ok id ∧ id = (ofName "a$" "b#").withMember "$c#" := by
  intro id
  obtain ⟨written, readBack, injective⟩ := parse_toText_exact
  have readable : id.Readable := by decide
  have read : parse "a$#b#$$c#" = .ok id := rfl
  exact ⟨readable, read, written _ id read, (readBack id).2 readable,
    injective id ((ofName "a$" "b#").withMember "$c#") readable (by decide) rfl⟩

end ServiceShapes.ShapeId
