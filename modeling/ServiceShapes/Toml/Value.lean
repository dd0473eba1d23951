import ServiceShapes.Toml.Scalar
import ServiceShapes.Toml.Table

/-!
# Reading TOML values

`valueReader` reads a value of any type.  Arrays may span lines, with comments between their items
and a comma behind the last one; tables between braces may not.  Arrays and such tables nest at most
`maxNesting` deep.
-/

namespace ServiceShapes.Toml

theorem length_skipTrivia_le (inComment : Bool) (s : List Char) :
    (skipTrivia inComment s).length ≤ s.length := by
  fun_induction skipTrivia inComment s <;> (try simp only [List.length_cons]) <;> omega

/-! ### Arrays -/

/-- Reads the items of an array up to its closing bracket. -/
def readItems? {α : Type} (item : Reader α) (s : List Char) : Option (List α × List Char) :=
  match skipTrivia false s with
  | ']' :: rest => some ([], rest)
  | _ => match _h : item.read? (skipTrivia false s) with
    | none => none
    | some (a, rest) => match _g : skipTrivia false rest with
      | ']' :: rest => some ([a], rest)
      | ',' :: more => (readItems? item more).map fun (items, rest) => (a :: items, rest)
      | _ => none
termination_by s.length
decreasing_by
  have h₁ := item.shorter _h
  have h₂ := length_skipTrivia_le false s
  have h₃ := length_skipTrivia_le false rest
  rw [_g, List.length_cons] at h₃
  omega

theorem length_lt_of_readItems? {α : Type} {item : Reader α} {s r : List Char} {items : List α}
    (h : readItems? item s = some (items, r)) : r.length < s.length := by
  fun_induction readItems? item s generalizing items with
  | case1 s _ hs =>
    cases h
    have := length_skipTrivia_le false s
    rw [hs, List.length_cons] at this
    omega
  | case2 => cases h
  | case3 s _ rest hr _ hd _ =>
    cases h
    have h₁ := item.shorter hr
    have h₂ := length_skipTrivia_le false s
    have h₃ := length_skipTrivia_le false rest
    rw [hd, List.length_cons] at h₃
    omega
  | case4 s _ rest hr _ hd _ ih =>
    obtain ⟨⟨_, _⟩, h₁, h₂⟩ := Option.map_eq_some_iff.1 h
    cases h₂
    have h₃ := ih h₁
    have h₄ := item.shorter hr
    have h₅ := length_skipTrivia_le false s
    have h₆ := length_skipTrivia_le false rest
    rw [hd, List.length_cons] at h₆
    omega
  | case5 => cases h

/-! ### Tables between braces -/

/-- The reader of an assignment, given the reader of its value. -/
def assignmentReader (value : Reader Toml) : Reader Assignment where
  read? s := match keyReader.read? s with
    | some (key, '=' :: rest) =>
      (value.read? (skipSpace rest)).map fun (v, rest) => ((key, v), rest)
    | _ => none
  shorter {s r a} h := by
    split at h
    · rename_i rest hk
      obtain ⟨⟨_, _⟩, h₁, h₂⟩ := Option.map_eq_some_iff.1 h
      cases h₂
      have h₃ := keyReader.shorter hk
      have h₄ := value.shorter h₁
      have h₅ := length_skipSpace_le rest
      rw [List.length_cons] at h₃
      omega
    · cases h

/-- Reads one or more entries of a table up to its closing brace. -/
def readEntries? {α : Type} (entry : Reader α) (s : List Char) : Option (List α × List Char) :=
  match _h : entry.read? s with
  | none => none
  | some (a, rest) => match _g : skipSpace rest with
    | '\x7d' :: rest => some ([a], rest)
    | ',' :: more => (readEntries? entry more).map fun (entries, rest) => (a :: entries, rest)
    | _ => none
termination_by s.length
decreasing_by
  have h₁ := entry.shorter _h
  have h₂ := length_skipSpace_le rest
  rw [_g, List.length_cons] at h₂
  omega

theorem length_lt_of_readEntries? {α : Type} {entry : Reader α} {s r : List Char}
    {entries : List α} (h : readEntries? entry s = some (entries, r)) : r.length < s.length := by
  fun_induction readEntries? entry s generalizing entries with
  | case1 => cases h
  | case2 s _ rest hr _ hd =>
    cases h
    have h₁ := entry.shorter hr
    have h₂ := length_skipSpace_le rest
    rw [hd, List.length_cons] at h₂
    omega
  | case3 s _ rest hr _ hd ih =>
    obtain ⟨⟨_, _⟩, h₁, h₂⟩ := Option.map_eq_some_iff.1 h
    cases h₂
    have h₃ := ih h₁
    have h₄ := entry.shorter hr
    have h₅ := length_skipSpace_le rest
    rw [hd, List.length_cons] at h₅
    omega
  | case4 => cases h

/-- Reads the entries of a table up to its closing brace. -/
def readBraced? (value : Reader Toml) (s : List Char) : Option (List Assignment × List Char) :=
  match skipSpace s with
  | '\x7d' :: rest => some ([], rest)
  | _ => readEntries? (assignmentReader value) s

theorem length_lt_of_readBraced? {value : Reader Toml} {s r : List Char}
    {entries : List Assignment} (h : readBraced? value s = some (entries, r)) :
    r.length < s.length := by
  unfold readBraced? at h
  split at h
  · rename_i hs
    cases h
    have := length_skipSpace_le s
    rw [hs, List.length_cons] at this
    omega
  · exact length_lt_of_readEntries? h

/-! ### Values -/

/-- The reader of arrays, given the reader of their items. -/
def arrayReader (value : Reader Toml) : Reader Toml where
  read? s := match s with
    | '[' :: rest => (readItems? value rest).map fun (items, rest) => (.array items, rest)
    | _ => none
  shorter h := by
    split at h
    · obtain ⟨⟨_, _⟩, h₁, h₂⟩ := Option.map_eq_some_iff.1 h
      cases h₂
      exact Nat.lt_succ_of_lt (length_lt_of_readItems? h₁)
    · cases h

/-- The reader of tables between braces, given the reader of the values in them. -/
def bracedReader (value : Reader Toml) : Reader Toml where
  read? s := match s with
    | '\x7b' :: rest => (readBraced? value rest).bind fun (assignments, rest) =>
      (assignAll? [] assignments).map fun entries => (.table .inline entries, rest)
    | _ => none
  shorter h := by
    split at h
    · obtain ⟨⟨_, _⟩, h₁, h₂⟩ := Option.bind_eq_some_iff.1 h
      obtain ⟨_, _, h₃⟩ := Option.map_eq_some_iff.1 h₂
      cases h₃
      exact Nat.lt_succ_of_lt (length_lt_of_readBraced? h₁)
    · cases h

/-- How deep arrays and tables between braces may nest. -/
def maxNesting : Nat := 79

/-- The reader of values that nest at most `depth` deep. -/
def nestedReader : (depth : Nat) → Reader Toml
  | 0 => (stringReader.map .string).orElse scalarReader
  | depth + 1 =>
    let inner := nestedReader depth
    (arrayReader inner).orElse ((bracedReader inner).orElse
      ((stringReader.map .string).orElse scalarReader))

/-- The reader of values. -/
def valueReader : Reader Toml := nestedReader maxNesting

end ServiceShapes.Toml
