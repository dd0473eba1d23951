import ServiceShapes.Toml.Value

/-!
# TOML documents

A document is a list of statements, one a line: assignments, and headers that open a table or one
more table of an array of tables.  `readStatements?` reads them, `Section.split` groups them by the
headers, and `Toml.read?` fills the tables section by section.
-/

namespace ServiceShapes.Toml

/-- What stands on a line. -/
inductive Statement
  | assignment (value : Assignment)
  /-- The header of a table. -/
  | table (header : Key)
  /-- The header of one more table of an array of tables. -/
  | item (header : Key)
deriving Repr, Inhabited

/-! ### Statements -/

/-- The reader of a key between brackets, one or two on each side. -/
def headerReader (double : Bool) : Reader Key where
  read? s := match double, s with
    | true, '[' :: '[' :: rest => match keyReader.read? rest with
      | some (key, ']' :: ']' :: rest) => some (key, rest)
      | _ => none
    | false, '[' :: rest => match keyReader.read? rest with
      | some (key, ']' :: rest) => some (key, rest)
      | _ => none
    | _, _ => none
  shorter h := by
    split at h
    · split at h
      · cases h
        have := keyReader.shorter ‹_›
        simp only [List.length_cons] at this ⊢
        omega
      · cases h
    · split at h
      · cases h
        have := keyReader.shorter ‹_›
        simp only [List.length_cons] at this ⊢
        omega
      · cases h
    · cases h

/-- The reader of statements, up to what may follow on their line. -/
def statementReader : Reader Statement :=
  ((headerReader true).map .item).orElse (((headerReader false).map .table).orElse
    ((assignmentReader valueReader).map .assignment))

/-- The text after the rest of a line: spaces, a comment and the line end. -/
def skipRestOfLine? (s : List Char) : Option (List Char) :=
  match skipComment (skipSpace s) with
  | [] => some []
  | rest => skipNewline? rest

theorem length_skipRestOfLine?_le {s r : List Char} (h : skipRestOfLine? s = some r) :
    r.length ≤ s.length := by
  have hcomment : (skipComment (skipSpace s)).length ≤ (skipSpace s).length := by
    unfold skipComment
    split
    · rename_i hs
      rw [hs]
      exact Nat.le_succ_of_le (List.dropWhile_sublist _).length_le
    · exact Nat.le_refl _
  have hspace := length_skipSpace_le s
  unfold skipRestOfLine? at h
  split at h
  · cases h
    exact Nat.zero_le _
  · have := length_lt_of_skipNewline? h
    omega

/-- Reads the statements of a document. -/
def readStatements? (s : List Char) : Option (List Statement) :=
  match _e : skipTrivia false s with
  | [] => some []
  | c :: text => match _h : statementReader.read? (c :: text) with
    | none => none
    | some (statement, rest) => match _g : skipRestOfLine? rest with
      | none => none
      | some more => (readStatements? more).map (statement :: ·)
termination_by s.length
decreasing_by
  have h₁ := statementReader.shorter _h
  have h₂ := length_skipRestOfLine?_le _g
  have h₃ := length_skipTrivia_le false s
  rw [_e] at h₃
  omega

/-! ### Sections -/

/-- A header and the assignments below it. -/
structure Section where
  /-- Whether the table is one of an array of tables. -/
  isItem : Bool
  header : Key
  assignments : List Assignment
deriving Repr, Inhabited

namespace Section

/-- The assignments above all headers, and the sections. -/
def split : List Statement → List Assignment × List Section
  | [] => ([], [])
  | .assignment value :: rest => ((value :: (split rest).1), (split rest).2)
  | .table header :: rest => ([], ⟨false, header, (split rest).1⟩ :: (split rest).2)
  | .item header :: rest => ([], ⟨true, header, (split rest).1⟩ :: (split rest).2)

/-- Adds the table of a section to the document. -/
def addTo? (root : Entries) (part : Section) : Option Entries :=
  if part.isItem then addItem? part.header part.assignments root
  else addTable? part.header part.assignments root

end Section

/-- The entries that statements define. -/
def ofStatements? (statements : List Statement) : Option Entries := do
  let (top, sections) := Section.split statements
  let root ← assignAll? [] top
  sections.foldlM Section.addTo? root

/-- The text without the mark that says how it is encoded. -/
def skipByteOrderMark : List Char → List Char
  | '\uFEFF' :: rest => rest
  | s => s

/-- The entries of the document that a text holds; `none` if the text is no TOML. -/
def read? (text : String) : Option Entries :=
  (readStatements? (skipByteOrderMark text.toList)).bind ofStatements?

end ServiceShapes.Toml
