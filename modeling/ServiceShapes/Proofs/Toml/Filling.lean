import ServiceShapes.Proofs.KeyedLists
import ServiceShapes.Toml.Document

/-!
# What can be added to a document

Statements walk down the names of their keys.  At each level they put one entry, either the one that they
define, or a table that they may enter with the change inside it (`edit?_cases`).

No walk enters a table between braces.  So it stays as it is, and what the first statement of a document
writes between braces is what the document has under this name (`HasInline.ofStatements?`).
-/

namespace ServiceShapes.Toml

variable {name : String} {entries entries' fields : Entries} {made origin : TableOrigin}

/-! ### Looking up -/

theorem lookup_put_of_ne {other : String} (ne : name ≠ other) (value : Toml) (entries : Entries) :
    (put other value entries).lookup name = entries.lookup name := by
  have absent : (name == other) = false := beq_false_of_ne ne
  induction entries with
  | nil => rw [put, List.lookup_cons, absent]
  | cons entry rest ih =>
    obtain ⟨n, v⟩ := entry
    rw [put]
    split
    · rename_i same
      rw [List.lookup_cons, List.lookup_cons, same, absent]
    · rw [List.lookup_cons, List.lookup_cons, ih]

/-! ### Walks -/

/-- Whether a value is a table with a header, dotted keys or parts of its own, or a list of such. -/
def isOpen : Toml → Bool
  | .table origin _ => origin ≠ .inline
  | .tables _ => true
  | _ => false

/-- A table between braces stands under the name. -/
def HasInline (name : String) (fields entries : Entries) : Prop :=
  entries.lookup name = some (.table .inline fields)

/-- **A change at the end of a path is a change of the entries here, or of one open table here.** -/
theorem edit?_cases {change : TableOrigin → Entries → Option Entries} {path : List String}
    (h : edit? made change path origin entries = some entries') :
    change origin entries = some entries' ∨
      ∃ next value, value.isOpen = true ∧ (∀ fields, ¬HasInline next fields entries) ∧
        entries' = put next value entries := by
  cases path with
  | nil => exact .inl h
  | cons next path =>
    right
    rw [edit?] at h
    split at h
    · rename_i open_ inner found
      split at h
      · rename_i enters
        obtain ⟨inner', -, rfl⟩ := Option.map_eq_some_iff.1 h
        have other : open_ ≠ .inline := by
          rintro rfl
          cases enters
        refine ⟨next, _, by simpa [isOpen] using other, fun fields inside => other ?_, rfl⟩
        rw [HasInline] at inside
        rw [inside] at found
        cases found
        rfl
      · cases h
    · rename_i items found
      split at h
      · obtain ⟨inner', -, rfl⟩ := Option.map_eq_some_iff.1 h
        refine ⟨next, _, rfl, fun fields inside => ?_, rfl⟩
        rw [HasInline] at inside
        rw [inside] at found
        cases found
      · cases h
    · cases h

/-! ### Tables between braces -/

/-- What each step keeps is kept. -/
theorem foldlM_keeps {α β : Type} {f : β → α → Option β} {P : β → Prop}
    (step : ∀ {b a b'}, P b → f b a = some b' → P b') {l : List α} {b b' : β} (start : P b)
    (h : l.foldlM f b = some b') : P b' := by
  induction l generalizing b with
  | nil =>
    cases h
    exact start
  | cons a l ih =>
    rw [List.foldlM_cons] at h
    obtain ⟨between, first, rest⟩ := Option.bind_eq_some_iff.1 h
    exact ih (step start first) rest

namespace HasInline

theorem put (inside : HasInline name fields entries) {other : String} (ne : name ≠ other) (value : Toml) :
    HasInline name fields (put other value entries) := by
  rwa [HasInline, lookup_put_of_ne ne]

theorem append (inside : HasInline name fields entries) (more : Entries) :
    HasInline name fields (entries ++ more) := by
  rw [HasInline] at inside
  rw [HasInline, List.lookup_append, inside, Option.some_or]

/-- **A walk cannot enter a table between braces**, so it changes other entries or none. -/
theorem edit? (inside : HasInline name fields entries) {path : List String}
    {change : TableOrigin → Entries → Option Entries}
    (changed : ∀ e, change origin entries = some e → HasInline name fields e)
    (h : edit? made change path origin entries = some entries') : HasInline name fields entries' := by
  rcases edit?_cases h with here | ⟨next, value, -, closed, rfl⟩
  · exact changed _ here
  · refine inside.put ?_ value
    rintro rfl
    exact closed _ inside

theorem assign? {assignment : Assignment} (inside : HasInline name fields entries)
    (h : assign? entries assignment = some entries') : HasInline name fields entries' := by
  refine inside.edit? (fun e changed => ?_) h
  split at changed
  · cases changed
    exact inside.append _
  · cases changed

theorem addTable? {header : Key} {assignments : List Assignment} (inside : HasInline name fields entries)
    (h : addTable? header assignments entries = some entries') : HasInline name fields entries' := by
  refine inside.edit? (fun e changed => ?_) h
  by_cases same : name = header.name
  · rw [HasInline] at inside
    rw [← same, inside] at changed
    cases changed
  · have others : HasInline name fields (entries.filter (·.1 ≠ header.name)) := by
      rwa [HasInline, List.lookup_filter_key (· ≠ header.name), if_pos (decide_eq_true same)]
    dsimp only [bind, Option.bind_some] at changed
    split at changed
    · obtain ⟨filled, -, made⟩ := Option.bind_eq_some_iff.1 changed
      cases made
      exact others.append _
    · obtain ⟨filled, -, made⟩ := Option.bind_eq_some_iff.1 changed
      cases made
      exact others.append _
    · cases changed

theorem addItem? {header : Key} {assignments : List Assignment} (inside : HasInline name fields entries)
    (h : addItem? header assignments entries = some entries') : HasInline name fields entries' := by
  refine inside.edit? (fun e changed => ?_) h
  by_cases same : name = header.name
  · rw [HasInline] at inside
    rw [← same, inside] at changed
    cases changed
  · dsimp only [bind, Option.bind_some] at changed
    split at changed
    · obtain ⟨filled, -, made⟩ := Option.bind_eq_some_iff.1 changed
      cases made
      exact inside.put same _
    · obtain ⟨filled, -, made⟩ := Option.bind_eq_some_iff.1 changed
      cases made
      exact inside.put same _
    · cases changed

theorem addTo? {part : Section} (inside : HasInline name fields entries)
    (h : part.addTo? entries = some entries') : HasInline name fields entries' := by
  unfold Section.addTo? at h
  split at h
  · exact inside.addItem? h
  · exact inside.addTable? h

/-- **What the first statement writes between braces is what the document has under the name.** -/
theorem ofStatements? {statements : List Statement}
    (h : ofStatements? (.assignment (⟨[], name⟩, .table .inline fields) :: statements) = some entries) :
    HasInline name fields entries := by
  obtain ⟨root, top, sections⟩ := Option.bind_eq_some_iff.1 h
  have more : assignAll? [(name, .table .inline fields)] (Section.split statements).1 = some root := top
  have first : HasInline name fields [(name, .table .inline fields)] := List.lookup_cons_self
  exact foldlM_keeps HasInline.addTo? (foldlM_keeps HasInline.assign? first more) sections

end HasInline

end ServiceShapes.Toml
