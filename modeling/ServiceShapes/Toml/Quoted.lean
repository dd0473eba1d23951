import ServiceShapes.Text.Reader

/-!
# TOML strings and white space

`stringReader` reads a string of any form.  The functions it uses take text right after an opening
quotation mark and give the content of the string together with the text after it.

* `readBasic?` reads a string between single quotation marks `"`, with escapes, on one line.
* `readLiteral?` reads a string between apostrophes, without escapes, on one line.
* `readLongBasic?` and `readLongLiteral?` read their forms with three marks, which may span lines;
  one or two marks right before the closing three belong to the content.

A line ends at a line feed, with or without a carriage return before it.  Control characters other
than tabs are not allowed anywhere.
-/

namespace ServiceShapes.Toml

/-! ### White space and comments -/

/-- The characters that separate words on a line. -/
def isSpace (c : Char) : Bool := c == ' ' || c == '\t'

/-- The text after leading spaces and tabs. -/
def skipSpace (s : List Char) : List Char := s.dropWhile isSpace

/-- The characters that text may hold: everything but control characters, and the tab. -/
def isPlain (c : Char) : Bool := c == '\t' || 0x20 ≤ c.toNat && c.toNat != 0x7F

/-- The text after a line end. -/
def skipNewline? : List Char → Option (List Char)
  | '\n' :: r => some r
  | '\r' :: '\n' :: r => some r
  | _ => none

/-- The text after a comment, if there is one. -/
def skipComment : List Char → List Char
  | '#' :: r => r.dropWhile isPlain
  | s => s

/-- The text after spaces, line ends and comments. -/
def skipTrivia : (inComment : Bool) → List Char → List Char
  | _, [] => []
  | _, '\n' :: r => skipTrivia false r
  | _, '\r' :: '\n' :: r => skipTrivia false r
  | true, c :: r => if isPlain c then skipTrivia true r else c :: r
  | false, '#' :: r => skipTrivia true r
  | false, c :: r => if isSpace c then skipTrivia false r else c :: r

/-! ### Escapes -/

/-- The value of a hexadecimal digit, in either case. -/
def hexDigit? (c : Char) : Option Nat :=
  if '0' ≤ c ∧ c ≤ '9' then some (c.toNat - 48)
  else if 'a' ≤ c ∧ c ≤ 'f' then some (c.toNat - 87)
  else if 'A' ≤ c ∧ c ≤ 'F' then some (c.toNat - 55)
  else none

/-- The character whose code the hexadecimal digits give. -/
def hexChar? (digits : List Char) : Option Char := do
  let n ← digits.foldlM (fun n c => (hexDigit? c).map (16 * n + ·)) 0
  if h : n.isValidChar then some (Char.ofNatAux n h) else none

/-- The character that a one-letter escape names. -/
def escaped? (c : Char) : Option Char :=
  match c with
  | '"' => some '"'
  | '\\' => some '\\'
  | 'b' => some '\x08'
  | 'f' => some '\x0c'
  | 'n' => some '\n'
  | 'r' => some '\r'
  | 't' => some '\t'
  | _ => none

/-- The character that an escape names, given the text after the backslash, and the text after
the escape. -/
def readEscape? : List Char → Option (Char × List Char)
  | 'u' :: a :: b :: c :: d :: r => (hexChar? [a, b, c, d]).map (·, r)
  | 'U' :: a :: b :: c :: d :: e :: f :: g :: h :: r =>
    (hexChar? [a, b, c, d, e, f, g, h]).map (·, r)
  | c :: r => (escaped? c).map (·, r)
  | [] => none

/-- What follows an escape is shorter. -/
theorem length_lt_of_readEscape? {s r : List Char} {c : Char}
    (h : readEscape? s = some (c, r)) : r.length < s.length := by
  unfold readEscape? at h
  split at h
  · obtain ⟨_, _, h⟩ := Option.map_eq_some_iff.1 h
    cases h
    simp only [List.length_cons]
    omega
  · obtain ⟨_, _, h⟩ := Option.map_eq_some_iff.1 h
    cases h
    simp only [List.length_cons]
    omega
  · obtain ⟨_, _, h⟩ := Option.map_eq_some_iff.1 h
    cases h
    simp
  · cases h

/-! ### Strings on one line -/

/-- Content read so far in front of what a reader gives. -/
def withChars (cs : List Char) (r : Option (List Char × List Char)) :
    Option (List Char × List Char) :=
  r.map fun (content, rest) => (cs ++ content, rest)

/-- Reads a string with escapes up to its closing mark. -/
def readBasic? : List Char → Option (List Char × List Char)
  | [] => none
  | '"' :: r => some ([], r)
  | '\\' :: r =>
    match _h : readEscape? r with
    | none => none
    | some (c, rest) => withChars [c] (readBasic? rest)
  | c :: r => if isPlain c then withChars [c] (readBasic? r) else none
termination_by s => s.length
decreasing_by
  · have := length_lt_of_readEscape? _h
    simp only [List.length_cons]
    omega
  · simp

/-- Reads a string without escapes up to its closing mark. -/
def readLiteral? (s : List Char) : Option (List Char × List Char) :=
  let isContent (c : Char) : Bool := c != '\'' && isPlain c
  match s.dropWhile isContent with
  | '\'' :: rest => some (s.takeWhile isContent, rest)
  | _ => none

/-! ### Strings over several lines -/

/-- The text after a line end, or the same text if it does not start with one. -/
def skipFirstNewline (s : List Char) : List Char := (skipNewline? s).getD s

/-- The characters that a backslash at the end of a line swallows. -/
def isSwallowed (c : Char) : Bool := isSpace c || c == '\n' || c == '\r'

/-- The text after a backslash that ends its line, and after all white space that follows; `none`
if the line goes on. -/
def skipLineEnd? (s : List Char) : Option (List Char) :=
  let rec swallow : List Char → List Char
    | '\n' :: r => swallow r
    | '\r' :: '\n' :: r => swallow r
    | c :: r => if isSpace c then swallow r else c :: r
    | [] => []
  (skipNewline? (skipSpace s)).map swallow

theorem length_skipSpace_le (s : List Char) : (skipSpace s).length ≤ s.length :=
  (List.dropWhile_sublist _).length_le

theorem length_lt_of_skipNewline? {s r : List Char} (h : skipNewline? s = some r) :
    r.length < s.length := by
  unfold skipNewline? at h
  split at h <;> cases h <;> simp only [List.length_cons] <;> omega

theorem length_swallow_le (s : List Char) : (skipLineEnd?.swallow s).length ≤ s.length := by
  fun_induction skipLineEnd?.swallow s <;> (try simp only [List.length_cons]) <;> omega

theorem length_lt_of_skipLineEnd? {s r : List Char} (h : skipLineEnd? s = some r) :
    r.length < s.length := by
  obtain ⟨t, ht, rfl⟩ := Option.map_eq_some_iff.1 h
  have h₁ := length_lt_of_skipNewline? ht
  have h₂ := length_skipSpace_le s
  have h₃ := length_swallow_le t
  omega

/-- Reads a string with escapes over several lines up to its three closing marks. -/
def readLongBasic? : List Char → Option (List Char × List Char)
  | [] => none
  | '"' :: '"' :: '"' :: '"' :: '"' :: r => some (['"', '"'], r)
  | '"' :: '"' :: '"' :: '"' :: r => some (['"'], r)
  | '"' :: '"' :: '"' :: r => some ([], r)
  | '"' :: r => withChars ['"'] (readLongBasic? r)
  | '\\' :: r =>
    match _g : skipLineEnd? r with
    | some rest => readLongBasic? rest
    | none => match _h : readEscape? r with
      | none => none
      | some (c, rest) => withChars [c] (readLongBasic? rest)
  | '\n' :: r => withChars ['\n'] (readLongBasic? r)
  | '\r' :: '\n' :: r => withChars ['\n'] (readLongBasic? r)
  | c :: r => if isPlain c then withChars [c] (readLongBasic? r) else none
termination_by s => s.length
decreasing_by
  all_goals try have := length_lt_of_skipLineEnd? _g
  all_goals try have := length_lt_of_readEscape? _h
  all_goals simp only [List.length_cons]
  all_goals omega

/-- Reads a string without escapes over several lines up to its three closing marks. -/
def readLongLiteral? : List Char → Option (List Char × List Char)
  | [] => none
  | '\'' :: '\'' :: '\'' :: '\'' :: '\'' :: r => some (['\'', '\''], r)
  | '\'' :: '\'' :: '\'' :: '\'' :: r => some (['\''], r)
  | '\'' :: '\'' :: '\'' :: r => some ([], r)
  | '\n' :: r => withChars ['\n'] (readLongLiteral? r)
  | '\r' :: '\n' :: r => withChars ['\n'] (readLongLiteral? r)
  | c :: r => if isPlain c then withChars [c] (readLongLiteral? r) else none

/-! ### What follows a string is shorter -/

theorem length_skipFirstNewline_le (s : List Char) : (skipFirstNewline s).length ≤ s.length := by
  unfold skipFirstNewline
  cases h : skipNewline? s with
  | none => simp
  | some r => exact Nat.le_of_lt (length_lt_of_skipNewline? h)

theorem length_lt_of_readBasic? {s r content : List Char} (h : readBasic? s = some (content, r)) :
    r.length < s.length := by
  fun_induction readBasic? s generalizing content with
  | case1 => cases h
  | case2 => cases h; simp
  | case3 => cases h
  | case4 _ _ _ hr ih =>
    obtain ⟨⟨_, _⟩, h₁, h₂⟩ := Option.map_eq_some_iff.1 h
    cases h₂
    have := ih h₁
    have := length_lt_of_readEscape? hr
    simp only [List.length_cons]
    omega
  | case5 _ _ _ _ _ ih =>
    obtain ⟨⟨_, _⟩, h₁, h₂⟩ := Option.map_eq_some_iff.1 h
    cases h₂
    exact Nat.lt_succ_of_lt (ih h₁)
  | case6 => cases h

theorem length_lt_of_readLiteral? {s r content : List Char}
    (h : readLiteral? s = some (content, r)) : r.length < s.length := by
  dsimp only [readLiteral?] at h
  split at h
  · rename_i hs
    cases h
    have h₁ := (List.dropWhile_sublist (l := s) fun c => c != '\'' && isPlain c).length_le
    rwa [hs] at h₁
  · cases h

theorem length_lt_of_readLongBasic? {s r content : List Char}
    (h : readLongBasic? s = some (content, r)) : r.length < s.length := by
  fun_induction readLongBasic? s generalizing content with
  | case1 => cases h
  | case2 => cases h; simp only [List.length_cons]; omega
  | case3 => cases h; simp only [List.length_cons]; omega
  | case4 => cases h; simp only [List.length_cons]; omega
  | case5 _ _ _ _ ih =>
    obtain ⟨⟨_, _⟩, h₁, h₂⟩ := Option.map_eq_some_iff.1 h
    cases h₂
    exact Nat.lt_succ_of_lt (ih h₁)
  | case6 _ _ hr ih =>
    have := ih h
    have := length_lt_of_skipLineEnd? hr
    simp only [List.length_cons]
    omega
  | case7 => cases h
  | case8 _ _ _ _ hr ih =>
    obtain ⟨⟨_, _⟩, h₁, h₂⟩ := Option.map_eq_some_iff.1 h
    cases h₂
    have := ih h₁
    have := length_lt_of_readEscape? hr
    simp only [List.length_cons]
    omega
  | case9 _ ih =>
    obtain ⟨⟨_, _⟩, h₁, h₂⟩ := Option.map_eq_some_iff.1 h
    cases h₂
    exact Nat.lt_succ_of_lt (ih h₁)
  | case10 _ ih =>
    obtain ⟨⟨_, _⟩, h₁, h₂⟩ := Option.map_eq_some_iff.1 h
    cases h₂
    exact Nat.lt_succ_of_lt (Nat.lt_succ_of_lt (ih h₁))
  | case11 _ _ _ _ _ _ _ _ _ _ ih =>
    obtain ⟨⟨_, _⟩, h₁, h₂⟩ := Option.map_eq_some_iff.1 h
    cases h₂
    exact Nat.lt_succ_of_lt (ih h₁)
  | case12 => cases h

theorem length_lt_of_readLongLiteral? {s r content : List Char}
    (h : readLongLiteral? s = some (content, r)) : r.length < s.length := by
  fun_induction readLongLiteral? s generalizing content with
  | case1 => cases h
  | case2 => cases h; simp only [List.length_cons]; omega
  | case3 => cases h; simp only [List.length_cons]; omega
  | case4 => cases h; simp only [List.length_cons]; omega
  | case5 _ ih =>
    obtain ⟨⟨_, _⟩, h₁, h₂⟩ := Option.map_eq_some_iff.1 h
    cases h₂
    exact Nat.lt_succ_of_lt (ih h₁)
  | case6 _ ih =>
    obtain ⟨⟨_, _⟩, h₁, h₂⟩ := Option.map_eq_some_iff.1 h
    cases h₂
    exact Nat.lt_succ_of_lt (Nat.lt_succ_of_lt (ih h₁))
  | case7 _ _ _ _ _ _ _ _ ih =>
    obtain ⟨⟨_, _⟩, h₁, h₂⟩ := Option.map_eq_some_iff.1 h
    cases h₂
    exact Nat.lt_succ_of_lt (ih h₁)
  | case8 => cases h

/-! ### Readers -/

/-- Reads a string on one line. -/
def readLine? : List Char → Option (List Char × List Char)
  | '"' :: r => readBasic? r
  | '\'' :: r => readLiteral? r
  | _ => none

/-- Reads a string of any form. -/
def readString? : List Char → Option (List Char × List Char)
  | '"' :: '"' :: '"' :: r => readLongBasic? (skipFirstNewline r)
  | '\'' :: '\'' :: '\'' :: r => readLongLiteral? (skipFirstNewline r)
  | s => readLine? s

theorem length_lt_of_readLine? {s r content : List Char} (h : readLine? s = some (content, r)) :
    r.length < s.length := by
  unfold readLine? at h
  split at h
  · exact Nat.lt_succ_of_lt (length_lt_of_readBasic? h)
  · exact Nat.lt_succ_of_lt (length_lt_of_readLiteral? h)
  · cases h

/-- The reader of strings on one line. -/
def lineReader : Reader String :=
  (Reader.mk readLine? length_lt_of_readLine?).map String.ofList

/-- The reader of strings. -/
def stringReader : Reader String :=
  (Reader.mk readString? fun {s r content} h => by
    unfold readString? at h
    split at h
    · rename_i t
      have := length_lt_of_readLongBasic? h
      have := length_skipFirstNewline_le t
      simp only [List.length_cons]
      omega
    · rename_i t
      have := length_lt_of_readLongLiteral? h
      have := length_skipFirstNewline_le t
      simp only [List.length_cons]
      omega
    · exact length_lt_of_readLine? h).map String.ofList

end ServiceShapes.Toml
