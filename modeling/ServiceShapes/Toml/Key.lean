import ServiceShapes.Toml.Quoted

/-!
# TOML keys

A key is a name or several names joined by dots; spaces may stand around each.  A name is either
bare, a run of letters, digits, underscores and hyphens, or a string on one line.
-/

namespace ServiceShapes.Toml

/-- A key: the names on the way and the last one. -/
structure Key where
  path : List String
  name : String
deriving DecidableEq, Repr, Inhabited

/-- How many names a key may have. -/
def maxNames : Nat := 79

/-- The key with these names, unless there are none or too many. -/
def Key.ofNames? (names : List String) : Option Key :=
  match names.getLast? with
  | some name => if names.length ≤ maxNames then some ⟨names.dropLast, name⟩ else none
  | none => none

/-- The characters of bare names. -/
def isBareChar (c : Char) : Bool := c.isAlphanum || c == '_' || c == '-'

/-- The reader of bare names. -/
def bareReader : Reader String where
  read? s :=
    if s.takeWhile isBareChar = [] then none
    else some (String.ofList (s.takeWhile isBareChar), s.dropWhile isBareChar)
  shorter {s r a} h := by
    split at h
    · cases h
    · cases h
      have hs := congrArg List.length (List.takeWhile_append_dropWhile (p := isBareChar) (l := s))
      rw [List.length_append] at hs
      have := List.length_pos_iff.2 ‹s.takeWhile isBareChar ≠ []›
      omega

/-- The reader of names. -/
def nameReader : Reader String := lineReader.orElse bareReader

/-- Reads names joined by dots, together with the spaces around them. -/
def readNames? (s : List Char) : Option (List String × List Char) :=
  match _h : nameReader.read? (skipSpace s) with
  | none => none
  | some (name, rest) => match _g : skipSpace rest with
    | '.' :: more => (readNames? more).map fun (names, rest) => (name :: names, rest)
    | rest => some ([name], rest)
termination_by s.length
decreasing_by
  have h₁ := nameReader.shorter _h
  have h₂ := length_skipSpace_le s
  have h₃ := length_skipSpace_le rest
  rw [_g, List.length_cons] at h₃
  omega

theorem length_lt_of_readNames? {s r : List Char} {names : List String}
    (h : readNames? s = some (names, r)) : r.length < s.length := by
  fun_induction readNames? s generalizing names with
  | case1 => cases h
  | case2 s _ rest hr _ hd ih =>
    obtain ⟨⟨_, _⟩, h₁, h₂⟩ := Option.map_eq_some_iff.1 h
    cases h₂
    have h₃ := ih h₁
    have h₄ := nameReader.shorter hr
    have h₅ := length_skipSpace_le s
    have h₆ := length_skipSpace_le rest
    rw [hd, List.length_cons] at h₆
    omega
  | case3 s _ rest hr =>
    cases h
    have h₄ := nameReader.shorter hr
    have h₅ := length_skipSpace_le s
    have h₆ := length_skipSpace_le rest
    omega

/-- The reader of keys. -/
def keyReader : Reader Key where
  read? s := (readNames? s).bind fun (names, rest) => (Key.ofNames? names).map (·, rest)
  shorter h := by
    obtain ⟨⟨_, _⟩, h₁, h₂⟩ := Option.bind_eq_some_iff.1 h
    obtain ⟨_, _, h₃⟩ := Option.map_eq_some_iff.1 h₂
    cases h₃
    exact length_lt_of_readNames? h₁

end ServiceShapes.Toml
