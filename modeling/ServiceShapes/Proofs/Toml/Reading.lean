import ServiceShapes.Proofs.KeyedLists
import ServiceShapes.Proofs.Toml.ValueWeights
import ServiceShapes.Toml.Document

/-!
# Reading what is written in the plainest way

A text in which a bare name, an equals sign and a value follow each other is read as this assignment
(`assignmentReader_bare`), and as a document of it (`read?_assignment`).  The values are strings between
quotation marks that need no escapes (`stringReader_raw`) and arrays of such strings
(`readItems?_strings`).
-/

namespace ServiceShapes.Toml

variable {name : String} {s rest : List Char}

/-! ### Spaces -/

theorem skipSpace_of_head (visible : ∀ c ∈ s.head?, isSpace c = false) : skipSpace s = s := by
  cases s with
  | nil => rfl
  | cons c s => simp [skipSpace, visible c rfl]

/-- A text that starts with another character than a space. -/
theorem visible_cons {c : Char} (visible : isSpace c = false) (s : List Char) :
    ∀ d ∈ (c :: s).head?, isSpace d = false := by
  intro d first
  cases first
  exact visible

theorem skipSpace_space (s : List Char) : skipSpace (' ' :: s) = skipSpace s := rfl

/-! ### Bare names -/

/-- A name that may stand as a key without marks around it. -/
def IsBare (name : String) : Prop := name ≠ "" ∧ name.toList.all isBareChar = true

instance (name : String) : Decidable (IsBare name) := inferInstanceAs (Decidable (_ ∧ _))

theorem ne_of_isBareChar {c d : Char} (bare : isBareChar c = true) (other : isBareChar d = false) :
    c ≠ d := by
  rintro rfl
  rw [bare] at other
  cases other

theorem IsBare.exists_cons (bare : IsBare name) : ∃ c cs, name.toList = c :: cs ∧ isBareChar c = true := by
  obtain ⟨filled, all⟩ := bare
  cases chars : name.toList with
  | nil => exact absurd (String.toList_eq_nil_iff.1 chars) filled
  | cons c cs =>
    rw [chars, List.all_cons, Bool.and_eq_true] at all
    exact ⟨c, cs, rfl, all.1⟩

theorem bareReader_bare (bare : IsBare name) (ends : ∀ c ∈ rest.head?, isBareChar c = false) :
    bareReader.read? (name.toList ++ rest) = some (name, rest) := by
  have all := List.all_eq_true.1 bare.2
  have taken : (name.toList ++ rest).takeWhile isBareChar = name.toList := by
    rw [List.takeWhile_append_of_pos all]
    cases rest with
    | nil => simp
    | cons c rest => simp [ends c rfl]
  have left : (name.toList ++ rest).dropWhile isBareChar = rest := by
    rw [List.dropWhile_append_of_pos all]
    cases rest with
    | nil => simp
    | cons c rest => simp [ends c rfl]
  have filled : name.toList ≠ [] := fun none => bare.1 (String.toList_eq_nil_iff.1 none)
  dsimp only [bareReader]
  rw [taken, left, if_neg filled, String.ofList_toList]

theorem nameReader_bare (bare : IsBare name) (ends : ∀ c ∈ rest.head?, isBareChar c = false) :
    nameReader.read? (name.toList ++ rest) = some (name, rest) := by
  have noMark : lineReader.read? (name.toList ++ rest) = none := by
    obtain ⟨c, cs, chars, char⟩ := bare.exists_cons
    show (readLine? (name.toList ++ rest)).map _ = none
    rw [chars, List.cons_append, readLine?.eq_3, Option.map_none]
    · exact fun r quote => ne_of_isBareChar char (by decide) (List.cons.inj quote).1
    · exact fun r quote => ne_of_isBareChar char (by decide) (List.cons.inj quote).1
  show (lineReader.read? _).or _ = _
  rw [noMark, Option.none_or, bareReader_bare bare ends]

theorem skipSpace_bare (bare : IsBare name) (rest : List Char) :
    skipSpace (name.toList ++ rest) = name.toList ++ rest := by
  obtain ⟨c, cs, chars, char⟩ := bare.exists_cons
  refine skipSpace_of_head fun d first => ?_
  have same : c = d := by simpa [chars] using first
  subst same
  simp [isSpace, ne_of_isBareChar char (by decide : isBareChar ' ' = false),
    ne_of_isBareChar char (by decide : isBareChar '\t' = false)]

theorem readNames?_bare (bare : IsBare name) (rest : List Char) :
    readNames? (name.toList ++ ' ' :: '=' :: rest) = some ([name], '=' :: rest) := by
  have read : nameReader.read? (skipSpace (name.toList ++ ' ' :: '=' :: rest)) =
      some (name, ' ' :: '=' :: rest) := by
    rw [skipSpace_bare bare]
    exact nameReader_bare bare fun c first => by cases first; decide
  have sign : skipSpace (' ' :: '=' :: rest) = '=' :: rest := rfl
  rw [readNames?]
  split
  · rename_i unread
    rw [read] at unread
    cases unread
  · rename_i found _ got
    rw [read] at got
    cases got
    split
    · rename_i dot
      rw [sign] at dot
      cases dot
    · rfl

theorem keyReader_bare (bare : IsBare name) (rest : List Char) :
    keyReader.read? (name.toList ++ ' ' :: '=' :: rest) = some (⟨[], name⟩, '=' :: rest) := by
  show (readNames? _).bind _ = _
  rw [readNames?_bare bare]
  rfl

theorem keyReader_space (s : List Char) : keyReader.read? (' ' :: s) = keyReader.read? s := by
  show (readNames? _).bind _ = (readNames? _).bind _
  rw [readNames?, readNames?]
  rfl

/-! ### Strings without escapes -/

theorem readBasic?_raw {content : List Char} (raw : content.all isRaw = true) (rest : List Char) :
    readBasic? (content ++ '"' :: rest) = some (content, rest) := by
  induction content with
  | nil => simp [readBasic?]
  | cons c content ih =>
    rw [List.all_cons, Bool.and_eq_true] at raw
    obtain ⟨char, others⟩ := raw
    simp only [isRaw, Bool.and_eq_true, bne_iff_ne] at char
    obtain ⟨⟨notMark, notBackslash⟩, plain⟩ := char
    rw [List.cons_append, readBasic?.eq_4 c _ notMark notBackslash, if_pos plain, ih others]
    rfl

/-- The string `""` is not taken for the start of a long one if no third mark follows it. -/
theorem readString?_raw {content : List Char} (raw : content.all isRaw = true)
    (ends : rest.head? ≠ some '"') : readString? ('"' :: content ++ '"' :: rest) = some (content, rest) := by
  have line : readLine? ('"' :: content ++ '"' :: rest) = some (content, rest) :=
    readBasic?_raw raw rest
  rw [← line]
  cases content with
  | nil =>
    cases rest with
    | nil => rfl
    | cons c rest =>
      refine readString?.eq_3 _ (fun r long => ends ?_) fun r literal => by cases literal
      cases long
      rfl
  | cons c content =>
    refine readString?.eq_3 _ (fun r long => ?_) fun r literal => by cases literal
    have mark : c = '"' := (List.cons.inj (List.cons.inj long).2).1
    rw [mark, List.all_cons, Bool.and_eq_true] at raw
    exact absurd raw.1 (by decide)

/-- A text that needs no escapes. -/
def IsRaw (text : String) : Prop := text.toList.all isRaw = true

instance (text : String) : Decidable (IsRaw text) := inferInstanceAs (Decidable (_ = true))

theorem stringReader_raw {text : String} (raw : IsRaw text) (ends : rest.head? ≠ some '"') :
    stringReader.read? ('"' :: text.toList ++ '"' :: rest) = some (text, rest) := by
  show (readString? _).map (fun read => (String.ofList read.1, read.2)) = _
  rw [readString?_raw raw ends]
  simp

theorem nestedReader_raw {text : String} (raw : IsRaw text) (ends : rest.head? ≠ some '"')
    (depth : Nat) :
    (nestedReader depth).read? ('"' :: text.toList ++ '"' :: rest) = some (.string text, rest) := by
  have word : ((stringReader.map .string).orElse scalarReader).read? ('"' :: text.toList ++ '"' :: rest) =
      some (.string text, rest) := by
    show ((stringReader.read? _).map _).or _ = _
    rw [stringReader_raw raw ends]
    rfl
  cases depth with
  | zero => exact word
  | succ depth => exact word

/-! ### Arrays of such strings -/

section Items

variable {α : Type} {item : Reader α} {a : α} {after : List Char}

theorem readItems?_space (item : Reader α) (s : List Char) :
    readItems? item (' ' :: s) = readItems? item s := by
  rw [readItems?, readItems?]
  rfl

theorem readItems?_last (more : ∀ r, skipTrivia false s ≠ ']' :: r)
    (read : item.read? (skipTrivia false s) = some (a, after)) (ends : skipTrivia false after = ']' :: rest) :
    readItems? item s = some ([a], rest) := by
  rw [readItems?]
  split
  · exact absurd ‹_› (more _)
  · split
    · simp_all
    · rename_i got
      cases got.symm.trans read
      split <;> simp_all

theorem readItems?_more (more : ∀ r, skipTrivia false s ≠ ']' :: r)
    (read : item.read? (skipTrivia false s) = some (a, after)) (comma : skipTrivia false after = ',' :: rest) :
    readItems? item s = (readItems? item rest).map fun (items, r) => (a :: items, r) := by
  rw [readItems?]
  split
  · exact absurd ‹_› (more _)
  · split
    · simp_all
    · rename_i got
      cases got.symm.trans read
      split <;> simp_all

end Items

/-- The items of an array of strings as they are written without escapes. -/
def stringItems (texts : List String) : List Char :=
  List.intercalate [',', ' '] (texts.map fun text => '"' :: text.toList ++ ['"'])

theorem stringItems_cons_cons (text next : String) (texts : List String) :
    stringItems (text :: next :: texts) =
      '"' :: text.toList ++ '"' :: ',' :: ' ' :: stringItems (next :: texts) := by
  simp [stringItems, List.intercalate]

theorem readItems?_strings {texts : List String} (filled : texts ≠ [])
    (raw : ∀ text ∈ texts, IsRaw text) (depth : Nat) (rest : List Char) :
    readItems? (nestedReader depth) (stringItems texts ++ ']' :: rest) =
      some (texts.map .string, rest) := by
  induction texts with
  | nil => exact absurd rfl filled
  | cons text texts ih =>
    obtain ⟨first, others⟩ := List.forall_mem_cons.1 raw
    have start : ∀ t, skipTrivia false ('"' :: t) = '"' :: t := fun t => by simp [skipTrivia, isSpace]
    have read : ∀ t : List Char, t.head? ≠ some '"' →
        (nestedReader depth).read? (skipTrivia false ('"' :: text.toList ++ '"' :: t)) =
          some (Toml.string text, t) := by
      intro t ends
      rw [List.cons_append, start]
      exact nestedReader_raw first ends depth
    have more : ∀ t r, skipTrivia false ('"' :: text.toList ++ '"' :: t) ≠ ']' :: r := by
      intro t r
      rw [List.cons_append, start]
      intro same
      cases same
    cases texts with
    | nil =>
      have whole : stringItems [text] ++ ']' :: rest = '"' :: text.toList ++ '"' :: ']' :: rest := by
        simp [stringItems]
      rw [whole]
      exact readItems?_last (more _) (read _ (by simp)) (by simp [skipTrivia, isSpace])
    | cons next texts =>
      have whole : stringItems (text :: next :: texts) ++ ']' :: rest =
          '"' :: text.toList ++ '"' :: ',' :: ' ' :: (stringItems (next :: texts) ++ ']' :: rest) := by
        simp [stringItems_cons_cons]
      have comma : ∀ t, skipTrivia false (',' :: t) = ',' :: t := fun t => by simp [skipTrivia, isSpace]
      rw [whole, readItems?_more (more _) (read _ (by simp)) (comma _), readItems?_space,
        ih (List.cons_ne_nil _ _) others]
      rfl

/-- **An array of strings that need no escapes is read as written.** -/
theorem arrayReader_strings {texts : List String} (filled : texts ≠ [])
    (raw : ∀ text ∈ texts, IsRaw text) (depth : Nat) (rest : List Char) :
    (nestedReader (depth + 1)).read? ('[' :: stringItems texts ++ ']' :: rest) =
      some (.array (texts.map .string), rest) := by
  have array : (arrayReader (nestedReader depth)).read? ('[' :: stringItems texts ++ ']' :: rest) =
      some (.array (texts.map .string), rest) := by
    show (readItems? _ _).map _ = _
    rw [List.append_eq, readItems?_strings filled raw]
    rfl
  show ((arrayReader _).read? _).or _ = _
  rw [array, Option.some_or]

/-! ### Assignments -/

/-- The text of an assignment to a bare name. -/
def assignmentChars (name : String) (s : List Char) : List Char := name.toList ++ ' ' :: '=' :: ' ' :: s

theorem assignmentReader_bare (value : Reader Toml) (bare : IsBare name)
    (visible : ∀ c ∈ s.head?, isSpace c = false) :
    (assignmentReader value).read? (assignmentChars name s) =
      (value.read? s).map fun (v, rest) => ((⟨[], name⟩, v), rest) := by
  dsimp only [assignmentReader, assignmentChars]
  rw [keyReader_bare bare]
  show Option.map _ (value.read? (skipSpace (' ' :: s))) = _
  rw [skipSpace_space, skipSpace_of_head visible]

theorem assignmentReader_space (value : Reader Toml) (s : List Char) :
    (assignmentReader value).read? (' ' :: s) = (assignmentReader value).read? s := by
  dsimp only [assignmentReader]
  rw [keyReader_space]

/-! ### Entries between braces -/

section Entries

variable {α : Type} {entry : Reader α} {a : α} {after : List Char}

theorem readEntries?_last (read : entry.read? s = some (a, after)) (ends : skipSpace after = '\x7d' :: rest) :
    readEntries? entry s = some ([a], rest) := by
  rw [readEntries?]
  split
  · simp_all
  · rename_i got
    cases got.symm.trans read
    split <;> simp_all

theorem readEntries?_more (read : entry.read? s = some (a, after)) (comma : skipSpace after = ',' :: rest) :
    readEntries? entry s = (readEntries? entry rest).map fun (entries, r) => (a :: entries, r) := by
  rw [readEntries?]
  split
  · simp_all
  · rename_i got
    cases got.symm.trans read
    split <;> simp_all

end Entries

/-- Something is assigned in a table whose text starts with a bare name. -/
theorem readBraced?_bare (value : Reader Toml) (bare : IsBare name) (rest : List Char) :
    readBraced? value (' ' :: (name.toList ++ rest)) =
      readEntries? (assignmentReader value) (' ' :: (name.toList ++ rest)) := by
  obtain ⟨c, cs, chars, char⟩ := bare.exists_cons
  rw [readBraced?, skipSpace_space, skipSpace_bare bare, chars, List.cons_append]
  split
  · rename_i ends
    exact absurd (List.cons.inj ends).1 (ne_of_isBareChar char (by decide))
  · rfl

/-- The assignment of a value to a name. -/
def assignmentOf (entry : String × Toml) : Assignment := (⟨[], entry.1⟩, entry.2)

/-- **Assignments to different names fill a table in their order.** -/
theorem assignAll?_names {before entries : Entries} (distinct : ((before ++ entries).map Prod.fst).Nodup) :
    assignAll? before (entries.map assignmentOf) = some (before ++ entries) := by
  induction entries generalizing before with
  | nil => rw [List.append_nil]; rfl
  | cons entry rest ih =>
    have new : before.lookup entry.1 = none := by
      rw [← Option.not_isSome_iff_eq_none, List.isSome_lookup_iff]
      rw [List.map_append, List.map_cons] at distinct
      intro old
      exact (List.nodup_append.1 distinct).2.2 _ old _ List.mem_cons_self rfl
    have first : assign? before (assignmentOf entry) = some (before ++ [entry]) :=
      if_pos ⟨.inl rfl, new⟩
    rw [List.append_cons] at distinct ⊢
    rw [List.map_cons, assignAll?, List.foldlM_cons, first]
    exact ih distinct

theorem stringReader_brace (s : List Char) : stringReader.read? ('\x7b' :: s) = none := by
  have none : readString? ('\x7b' :: s) = none := by simp [readString?, readLine?]
  show (readString? ('\x7b' :: s)).map (fun read => (String.ofList read.1, read.2)) = _
  rw [none, Option.map_none]

theorem scalarReader_brace (s : List Char) : scalarReader.read? ('\x7b' :: s) = none := by
  have word : (takeWord ('\x7b' :: s)).1 = [] := by
    simp [takeWord, isWordChar]
  show (scalar? (takeWord ('\x7b' :: s)).1).map (·, (takeWord ('\x7b' :: s)).2) = none
  rw [word, scalar?_nil, Option.map_none]

/-- **Only a table between braces starts with a brace.** -/
theorem nestedReader_brace (depth : Nat) (s : List Char) :
    (nestedReader (depth + 1)).read? ('\x7b' :: s) =
      (bracedReader (nestedReader depth)).read? ('\x7b' :: s) := by
  have noWord : ((stringReader.map .string).orElse scalarReader).read? ('\x7b' :: s) = none := by
    show ((stringReader.read? ('\x7b' :: s)).map fun read => (Toml.string read.1, read.2)).or
      (scalarReader.read? ('\x7b' :: s)) = none
    rw [stringReader_brace, scalarReader_brace, Option.map_none, Option.or_none]
  show ((bracedReader (nestedReader depth)).read? ('\x7b' :: s)).or
    (((stringReader.map .string).orElse scalarReader).read? ('\x7b' :: s)) = _
  rw [noWord, Option.or_none]

/-- A table is read as its entries, if these have different names. -/
theorem bracedReader_of_readBraced? {value : Reader Toml} {entries : Entries}
    (read : readBraced? value s = some (entries.map assignmentOf, rest))
    (distinct : (entries.map Prod.fst).Nodup) :
    (bracedReader value).read? ('\x7b' :: s) = some (.table .inline entries, rest) := by
  have filled : assignAll? [] (entries.map assignmentOf) = some entries := assignAll?_names distinct
  show (readBraced? value s).bind (fun read =>
    (assignAll? [] read.1).map fun entries => (Toml.table .inline entries, read.2)) = _
  rw [read, Option.bind_some]
  show (assignAll? [] (entries.map assignmentOf)).map _ = _
  rw [filled]
  rfl

/-! ### Documents of one statement -/

theorem statementReader_bare (bare : IsBare name) (visible : ∀ c ∈ s.head?, isSpace c = false) :
    statementReader.read? (assignmentChars name s) =
      (valueReader.read? s).map fun (v, rest) => (.assignment (⟨[], name⟩, v), rest) := by
  obtain ⟨c, cs, chars, char⟩ := bare.exists_cons
  have noHeader : ∀ double, (headerReader double).read? (assignmentChars name s) = none := by
    intro double
    have other := ne_of_isBareChar char (by decide : isBareChar '[' = false)
    dsimp only [headerReader, assignmentChars]
    rw [chars]
    cases double <;> simp [other]
  show (Option.map _ ((headerReader true).read? _)).or
    ((Option.map _ ((headerReader false).read? _)).or (Option.map _ _)) = _
  rw [noHeader, noHeader, Option.map_none, Option.map_none, Option.none_or, Option.none_or,
    assignmentReader_bare _ bare visible, Option.map_map]
  rfl

theorem skipTrivia_assignmentChars (bare : IsBare name) (s : List Char) :
    skipTrivia false (assignmentChars name s) = assignmentChars name s := by
  obtain ⟨c, cs, chars, char⟩ := bare.exists_cons
  have other : ∀ {d}, isBareChar d = false → c ≠ d := ne_of_isBareChar char
  rw [assignmentChars, chars, List.cons_append, skipTrivia]
  · simp [isSpace, other (by decide : isBareChar ' ' = false), other (by decide : isBareChar '\t' = false)]
  · exact other (by decide)
  · exact fun _ same => absurd same (other (by decide))
  · exact other (by decide)

theorem skipByteOrderMark_assignmentChars (bare : IsBare name) (s : List Char) :
    skipByteOrderMark (assignmentChars name s) = assignmentChars name s := by
  obtain ⟨c, cs, chars, char⟩ := bare.exists_cons
  rw [assignmentChars, chars, List.cons_append, skipByteOrderMark]
  exact fun _ same => ne_of_isBareChar char (by decide) (List.cons.inj same).1

theorem readStatements?_eq (start : skipTrivia false s = s) (filled : s ≠ []) :
    readStatements? s = (statementReader.read? s).bind fun (statement, rest) =>
      (skipRestOfLine? rest).bind fun more => (readStatements? more).map (statement :: ·) := by
  rw [readStatements?]
  split
  · simp_all
  · rename_i same
    rw [start] at same
    subst same
    split
    · simp_all
    · rename_i got
      rw [got, Option.bind_some]
      split <;> simp_all

/-- **A document that starts with an assignment to a bare name is read statement by statement.** -/
theorem read?_eq (bare : IsBare name) (visible : ∀ c ∈ s.head?, isSpace c = false) :
    read? (String.ofList (assignmentChars name s)) =
      (valueReader.read? s).bind fun (value, rest) => (skipRestOfLine? rest).bind fun more =>
        (readStatements? more).bind fun statements =>
          ofStatements? (.assignment (⟨[], name⟩, value) :: statements) := by
  have filled : assignmentChars name s ≠ [] := by simp [assignmentChars]
  rw [read?, String.toList_ofList, skipByteOrderMark_assignmentChars bare,
    readStatements?_eq (skipTrivia_assignmentChars bare s) filled, statementReader_bare bare visible]
  simp only [Option.bind_map, Option.bind_assoc, Function.comp_def]

theorem readStatements?_nil : readStatements? [] = some [] := by
  rw [readStatements?]
  rfl

/-- A document of one assignment defines one entry. -/
theorem read?_assignment (bare : IsBare name) (visible : ∀ c ∈ s.head?, isSpace c = false) {value : Toml}
    (read : valueReader.read? s = some (value, [])) :
    read? (String.ofList (assignmentChars name s)) = some [(name, value)] := by
  rw [read?_eq bare visible, read, Option.bind_some]
  show (readStatements? []).bind _ = _
  rw [readStatements?_nil]
  rfl

end ServiceShapes.Toml
