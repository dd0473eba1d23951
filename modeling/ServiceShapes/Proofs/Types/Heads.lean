import ServiceShapes.Proofs.Symbols.Complete

/-!
# Heads of types

A type written in full is a head with its parts in angle brackets behind it, if it has any
(`RustType.chars_eq`).  No head holds a bracket or a comma (`RustType.isMark_of_mem_head`).

That head and parts determine the type (`RustType.eq_of_head_eq`) needs care with names: a named type has
to have a path as its namespace, or else it could pass for a built-in type, and with arguments it must not
be the hash map of the standard library (`RustType.Placed`).
-/

namespace ServiceShapes.RustType

variable {s t : RustType} {r q : List Char}

/-! ### Named types in their places -/

/-- Letters, digits and underscores.  Beyond ASCII, where most characters are letters, any character
counts as one. -/
def isIdentifierChar (c : Char) : Bool := c.isAlphanum || c == '_' || decide (128 ≤ c.toNat)

/-- A text of letters, digits and underscores, of one at least. -/
def IsIdentifier (name : String) : Prop := name ≠ "" ∧ name.toList.all isIdentifierChar = true

instance (name : String) : Decidable (IsIdentifier name) := inferInstanceAs (Decidable (_ ∧ _))

/-- Identifiers joined by `::`. -/
def IsPath (ns : String) : Prop :=
  ∃ words : List String, (∀ w ∈ words, IsIdentifier w) ∧ ns = "::".intercalate words

/-- What a type has to be, if it is a named one, so that its text cannot be taken for that of another
type: an identifier at a path, with one argument at least if it is written with arguments, and then not
the hash map of the standard library. -/
def Placed : RustType → Prop
  | .named name ns => IsIdentifier name ∧ ∃ path, ns = some path ∧ IsPath path
  | .generic name ns args => IsIdentifier name ∧ (∃ path, ns = some path ∧ IsPath path) ∧
      args ≠ [] ∧ ¬(name = "HashMap" ∧ ns = some "std::collections")
  | _ => True

/-! ### Heads and parts -/

/-- The text in front of the parts. -/
def head : RustType → List Char
  | .unit => "()".toList
  | .bool => "bool".toList
  | .string => "String".toList
  | .integer bits => 'i' :: Nat.toDigits 10 bits
  | .float bits => 'f' :: Nat.toDigits 10 bits
  | .vec _ => "Vec".toList
  | .hashMap .. => qualify true "HashMap" (some "std::collections")
  | .option _ => "Option".toList
  | .box _ => "Box".toList
  | .named name ns => qualify true name ns
  | .generic name ns _ => qualify true name ns

/-- The types that the text holds in brackets. -/
def parts : RustType → List RustType
  | .vec item => [item]
  | .hashMap key value => [key, value]
  | .option content => [content]
  | .box content => [content]
  | .generic _ _ args => args
  | _ => []

/-- The text behind the head. -/
def bracketed : List RustType → List Char
  | [] => []
  | first :: more => '<' :: argsChars true (first :: more) ++ ['>']

theorem bracketed_singleton (t : RustType) : bracketed [t] = '<' :: (t.chars true ++ ['>']) := by
  simp [bracketed, argsChars, moreArgsChars]

theorem bracketed_pair (s t : RustType) :
    bracketed [s, t] = '<' :: (s.chars true ++ ',' :: ' ' :: (t.chars true ++ ['>'])) := by
  simp [bracketed, argsChars, moreArgsChars]

/-- **A type is written as its head with its parts in brackets behind it.** -/
theorem chars_eq (placed : t.Placed) : t.chars true = t.head ++ bracketed t.parts := by
  cases t with
  | vec | option | box =>
    rw [parts, bracketed_singleton]
    exact List.append_assoc _ _ _
  | hashMap key value =>
    show hashMapPath true ++ "HashMap<".toList ++ key.chars true ++ ", ".toList ++ value.chars true ++
      ['>'] = _
    rw [parts, bracketed_pair]
    simp only [List.append_assoc]
    rfl
  | generic name ns args =>
    obtain ⟨-, -, some, -⟩ := placed
    obtain ⟨first, more, rfl⟩ := List.exists_cons_of_ne_nil some
    rw [chars_generic, List.append_assoc]
    rfl
  | _ => exact (List.append_nil _).symm

theorem sizeOf_lt_of_mem_parts (h : s ∈ t.parts) : sizeOf s < sizeOf t := by
  cases t with
  | generic name ns args =>
    have below := List.sizeOf_lt_of_mem (show s ∈ args from h)
    rw [generic.sizeOf_spec]
    omega
  | hashMap key value =>
    rw [hashMap.sizeOf_spec]
    rcases List.mem_pair.1 h with rfl | rfl <;> omega
  | vec | option | box =>
    obtain rfl := List.mem_singleton.1 h
    simp
  | _ => cases h

/-- A property holds of every type if it holds of each type with such parts. -/
theorem induction_on_parts {P : RustType → Prop} (step : ∀ t, (∀ s ∈ t.parts, P s) → P t) (t : RustType) :
    P t :=
  step t fun s _ => induction_on_parts step s
termination_by sizeOf t
decreasing_by exact sizeOf_lt_of_mem_parts ‹_›

/-! ### Where a head ends -/

/-- A text that a character of one kind follows shows where it ends, if it holds none of that kind. -/
theorem append_inj_of_boundary {p : Char → Bool} {a b : List Char} (ha : ∀ c ∈ a, p c = false)
    (hb : ∀ c ∈ b, p c = false) (hr : ∀ c ∈ r.head?, p c = true) (hq : ∀ c ∈ q.head?, p c = true)
    (same : a ++ r = b ++ q) : a = b ∧ r = q := by
  have cut : ∀ {a r : List Char}, (∀ c ∈ a, p c = false) → (∀ c ∈ r.head?, p c = true) →
      (a ++ r).takeWhile (fun c => !p c) = a := by
    intro a r ha hr
    rw [List.takeWhile_append_of_pos (by simpa using ha)]
    cases r with
    | nil => simp
    | cons c r => simp [hr c rfl]
  have first : a = b := by rw [← cut ha hr, same, cut hb hq]
  subst first
  exact ⟨rfl, List.append_cancel_left same⟩

/-- The characters that can stand behind a head. -/
def isMark (c : Char) : Bool := c == '<' || c == '>' || c == ','

theorem isMark_of_mem_of_all {l : List Char} (none : (l.all fun c => !isMark c) = true) :
    ∀ c ∈ l, isMark c = false := by
  simpa using none

theorem isMark_of_isIdentifierChar {c : Char} (h : isIdentifierChar c = true) : isMark c = false := by
  have ne : ∀ d, isIdentifierChar d = false → (c == d) = false := by
    intro d other
    rw [beq_eq_false_iff_ne]
    rintro rfl
    rw [h] at other
    cases other
  rw [isMark, ne '<' (by decide), ne '>' (by decide), ne ',' (by decide)]
  rfl

theorem isMark_of_mem_identifier {name : String} (h : IsIdentifier name) :
    ∀ c ∈ name.toList, isMark c = false :=
  fun c hc => isMark_of_isIdentifierChar (List.all_eq_true.1 h.2 c hc)

theorem isMark_of_mem_path {ns : String} (h : IsPath ns) : ∀ c ∈ ns.toList, isMark c = false := by
  have colons : ∀ c ∈ "::".toList, isMark c = false := isMark_of_mem_of_all rfl
  obtain ⟨words, identifiers, rfl⟩ := h
  induction words with
  | nil => exact List.forall_mem_nil _
  | cons first words ih =>
    obtain ⟨identifier, identifiers⟩ := List.forall_mem_cons.1 identifiers
    cases words with
    | nil =>
      rw [String.intercalate_singleton]
      exact isMark_of_mem_identifier identifier
    | cons second words =>
      rw [String.intercalate_cons_cons, String.toList_append, String.toList_append]
      intro c hc
      rcases List.mem_append.1 hc with hc | hc
      · rcases List.mem_append.1 hc with hc | hc
        · exact isMark_of_mem_identifier identifier c hc
        · exact colons c hc
      · exact ih identifiers c hc

theorem isMark_of_mem_qualify {name ns : String} (identifier : IsIdentifier name) (path : IsPath ns) :
    ∀ c ∈ qualify true name (some ns), isMark c = false := by
  intro c hc
  rcases List.mem_append.1 hc with hc | hc
  · exact isMark_of_mem_path path c hc
  · rcases List.mem_cons.1 hc with rfl | hc
    · rfl
    · rcases List.mem_cons.1 hc with rfl | hc
      · rfl
      · exact isMark_of_mem_identifier identifier c hc

theorem isIdentifierChar_of_mem_digits {c : Char} {bits : Nat} (h : c ∈ Nat.toDigits 10 bits) :
    isIdentifierChar c = true := by
  have digit := Nat.isDigit_of_mem_toDigits (by decide) (by decide) h
  simp [isIdentifierChar, Char.isAlphanum, digit]

theorem isPath_collections : IsPath "std::collections" :=
  ⟨["std", "collections"], by decide, by decide⟩

theorem isMark_of_mem_head (placed : t.Placed) : ∀ c ∈ t.head, isMark c = false := by
  cases t with
  | integer bits | float bits =>
    refine List.forall_mem_cons.2 ⟨rfl, ?_⟩
    exact fun c hc => isMark_of_isIdentifierChar (isIdentifierChar_of_mem_digits hc)
  | hashMap key value => exact isMark_of_mem_qualify (by decide) isPath_collections
  | named name ns =>
    obtain ⟨identifier, path, rfl, isPath⟩ := placed
    exact isMark_of_mem_qualify identifier isPath
  | generic name ns args =>
    obtain ⟨identifier, ⟨path, rfl, isPath⟩, -⟩ := placed
    exact isMark_of_mem_qualify identifier isPath
  | _ => exact isMark_of_mem_of_all rfl

/-! ### What a head says -/

theorem colon_not_mem_identifier {name : String} (h : IsIdentifier name) : ':' ∉ name.toList :=
  fun mem => absurd (List.all_eq_true.1 h.2 ':' mem) (by decide)

/-- The name behind a path begins after the last colon. -/
theorem qualify_inj {name name' ns ns' : String} (identifier : IsIdentifier name)
    (identifier' : IsIdentifier name')
    (same : qualify true name (some ns) = qualify true name' (some ns')) : name = name' ∧ ns = ns' := by
  have noColon : ∀ {name : String}, IsIdentifier name →
      ∀ c ∈ name.toList.reverse, (c == ':') = false := by
    intro name identifier c hc
    rw [beq_eq_false_iff_ne]
    rintro rfl
    exact colon_not_mem_identifier identifier (List.mem_reverse.1 hc)
  have reversed : name.toList.reverse ++ ':' :: ':' :: ns.toList.reverse =
      name'.toList.reverse ++ ':' :: ':' :: ns'.toList.reverse := by
    simpa [qualify] using congrArg List.reverse same
  obtain ⟨names, places⟩ := append_inj_of_boundary (p := (· == ':')) (noColon identifier)
    (noColon identifier') (by simp) (by simp) reversed
  refine ⟨String.toList_inj.1 (List.reverse_inj.1 names), String.toList_inj.1 (List.reverse_inj.1 ?_)⟩
  simpa using places

/-- Name and path of a type that is written with a path. -/
def located? : RustType → Option (String × String)
  | .hashMap .. => some ("HashMap", "std::collections")
  | .named name ns => ns.map (name, ·)
  | .generic name ns _ => ns.map (name, ·)
  | _ => none

theorem identifier_of_located? {name ns : String} (placed : t.Placed)
    (h : t.located? = some (name, ns)) :
    IsIdentifier name ∧ t.head = qualify true name (some ns) := by
  cases t with
  | hashMap key value =>
    cases h
    exact ⟨by decide, rfl⟩
  | named name' ns' | generic name' ns' =>
    obtain ⟨path, rfl, same⟩ := Option.map_eq_some_iff.1 h
    cases same
    exact ⟨placed.1, rfl⟩
  | _ => cases h

/-- The type with a path that has such parts: with arguments it is a generic one, or the hash map. -/
def ofPath (name ns : String) (parts : List RustType) : RustType :=
  if parts = [] then .named name (some ns)
  else if name = "HashMap" ∧ ns = "std::collections" then
    .hashMap (parts.headD .unit) (parts.tail.headD .unit)
  else .generic name (some ns) parts

/-- **Path and parts determine a type with a path.** -/
theorem ofPath_parts {name ns : String} (placed : t.Placed) (h : t.located? = some (name, ns)) :
    ofPath name ns t.parts = t := by
  cases t with
  | hashMap key value =>
    cases h
    exact (if_neg (List.cons_ne_nil key [value])).trans (if_pos ⟨rfl, rfl⟩)
  | named name' ns' =>
    obtain ⟨path, rfl, same⟩ := Option.map_eq_some_iff.1 h
    cases same
    exact if_pos rfl
  | generic name' ns' args =>
    obtain ⟨path, rfl, same⟩ := Option.map_eq_some_iff.1 h
    cases same
    obtain ⟨-, -, some, other⟩ := placed
    rw [Option.some_inj] at other
    exact (if_neg some).trans (if_neg other)
  | _ => cases h

/-- The type without a path that has such a head and parts: each kind of these types has a first
character of its own. -/
def ofHead (head : List Char) (parts : List RustType) : RustType :=
  match head with
  | 'b' :: _ => .bool
  | 'S' :: _ => .string
  | 'i' :: digits => .integer (Nat.ofDigitChars 10 digits 0)
  | 'f' :: digits => .float (Nat.ofDigitChars 10 digits 0)
  | 'V' :: _ => .vec (parts.headD .unit)
  | 'O' :: _ => .option (parts.headD .unit)
  | 'B' :: _ => .box (parts.headD .unit)
  | _ => .unit

/-- **Head and parts determine a type without a path**, and the head does not look like a path. -/
theorem ofHead_parts (placed : t.Placed) (h : t.located? = none) :
    ofHead t.head t.parts = t ∧ ':' ∉ t.head := by
  have noColon : ∀ (first : Char) (bits : Nat), ':' ≠ first → ':' ∉ first :: Nat.toDigits 10 bits := by
    intro first bits other mem
    rcases List.mem_cons.1 mem with same | mem
    · exact other same
    · exact absurd (isIdentifierChar_of_mem_digits mem) (by decide)
  cases t with
  | integer bits =>
    exact ⟨congrArg integer Nat.ofDigitChars_ten_toDigits, noColon 'i' bits (by decide)⟩
  | float bits =>
    exact ⟨congrArg float Nat.ofDigitChars_ten_toDigits, noColon 'f' bits (by decide)⟩
  | hashMap key value => cases h
  | named name ns =>
    obtain ⟨-, path, rfl, -⟩ := placed
    cases h
  | generic name ns args =>
    obtain ⟨-, ⟨path, rfl, -⟩, -⟩ := placed
    cases h
  | _ => exact ⟨rfl, of_decide_eq_true rfl⟩

/-- A type has the head of a type with a path only if it has a path itself. -/
theorem located?_ne_none_of_head_eq {name ns : String} (ht : t.Placed)
    (heads : t.head = qualify true name (some ns)) : t.located? ≠ none := by
  intro unlocated
  refine (ofHead_parts ht unlocated).2 ?_
  rw [heads]
  simp [qualify]

/-- **Head and parts determine a type.** -/
theorem eq_of_head_eq (hs : s.Placed) (ht : t.Placed) (heads : s.head = t.head)
    (same : s.parts = t.parts) : s = t := by
  cases here : s.located? with
  | none =>
    cases there : t.located? with
    | none => rw [← (ofHead_parts hs here).1, heads, same, (ofHead_parts ht there).1]
    | some place =>
      have written := heads.trans (identifier_of_located? ht there).2
      exact absurd here (located?_ne_none_of_head_eq hs written)
  | some place =>
    obtain ⟨identifier, written⟩ := identifier_of_located? hs here
    cases there : t.located? with
    | none => exact absurd there (located?_ne_none_of_head_eq ht (heads.symm.trans written))
    | some place' =>
      obtain ⟨identifier', written'⟩ := identifier_of_located? ht there
      obtain ⟨names, paths⟩ := qualify_inj identifier identifier' (by rw [← written, heads, written'])
      rw [← ofPath_parts hs here, same, names, paths, ofPath_parts ht there]

end ServiceShapes.RustType
