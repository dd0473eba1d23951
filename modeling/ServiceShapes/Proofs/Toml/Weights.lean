import Mathlib.Algebra.Order.BigOperators.Group.List
import Mathlib.Algebra.Order.Ring.Nat
import ServiceShapes.Toml.Value

/-!
# What reading costs

Every value that is read from a text is paid for by characters that the reader has consumed.  Characters
have weights (`charWeight`), and `Reader.Pays` says that the value, together with the text that follows it,
weighs no more than the text that was there.

A string weighs its characters and the marks around it, and one more if it has a character that may not
stand between two quotation marks as it is (`stringWeight`): such a character is read from an escape, from
apostrophes, or from one of the forms with three marks, and each of them is written with more.  Blanks and
commas weigh nothing, since texts may have any number of them between values.
-/

namespace ServiceShapes

/-- What the reader gives, together with the text that follows, weighs no more than the text that was
there. -/
def Reader.Pays {α : Type} (weigh : List Char → Nat) (weight : α → Nat) (reader : Reader α) : Prop :=
  ∀ s r a, reader.read? s = some (a, r) → weight a + weigh r ≤ weigh s

namespace Reader.Pays

variable {α β : Type} {weigh : List Char → Nat} {weight weight' : α → Nat} {reader second : Reader α}

theorem map {weight : β → Nat} {f : α → β} (pays : reader.Pays weigh fun a => weight (f a)) :
    (reader.map f).Pays weigh weight := by
  intro s r b h
  obtain ⟨⟨a, r'⟩, read, same⟩ := Option.map_eq_some_iff.1 h
  cases same
  exact pays s r a read

theorem orElse (first : reader.Pays weigh weight) (other : second.Pays weigh weight) :
    (reader.orElse second).Pays weigh weight := by
  intro s r a h
  rcases Option.or_eq_some_iff.1 h with h | ⟨-, h⟩
  · exact first s r a h
  · exact other s r a h

theorem mono (pays : reader.Pays weigh weight) (le : ∀ a, weight' a ≤ weight a) :
    reader.Pays weigh weight' :=
  fun s r a h => Nat.le_trans (Nat.add_le_add_right (le a) _) (pays s r a h)

end Reader.Pays

namespace Toml

/-! ### Texts -/

/-- Whether a character may stand between quotation marks as it is. -/
def isRaw (c : Char) : Bool := c != '"' && c != '\\' && isPlain c

/-- The weight of a character. -/
def charWeight (c : Char) : Nat :=
  if isSwallowed c || c == ',' then 0 else if c == '\\' || c == '\'' then 2 else 1

theorem charWeight_le (c : Char) : charWeight c ≤ 2 := by
  unfold charWeight
  split
  · exact Nat.zero_le 2
  · split <;> decide

/-- The weight of a text. -/
def textWeight (s : List Char) : Nat := (s.map charWeight).sum

@[simp] theorem textWeight_nil : textWeight [] = 0 := rfl

@[simp] theorem textWeight_cons (c : Char) (s : List Char) :
    textWeight (c :: s) = charWeight c + textWeight s := rfl

@[simp] theorem textWeight_append (s t : List Char) :
    textWeight (s ++ t) = textWeight s + textWeight t := by
  simp [textWeight]

theorem textWeight_le_of_sublist {s t : List Char} (h : s.Sublist t) : textWeight s ≤ textWeight t := by
  induction h with
  | slnil => exact Nat.le_refl _
  | cons c _ ih => exact Nat.le_add_left_of_le ih
  | cons_cons c _ ih => exact Nat.add_le_add_left ih _

theorem textWeight_dropWhile_le (p : Char → Bool) (s : List Char) :
    textWeight (s.dropWhile p) ≤ textWeight s :=
  textWeight_le_of_sublist (List.dropWhile_sublist p)

/-- One if some character of the text has to be escaped. -/
def escapeWeight (s : List Char) : Nat := if s.all isRaw then 0 else 1

theorem escapeWeight_le (s : List Char) : escapeWeight s ≤ 1 := by
  unfold escapeWeight
  split <;> decide

theorem escapeWeight_cons {c : Char} (raw : isRaw c = true) (s : List Char) :
    escapeWeight (c :: s) = escapeWeight s := by
  rw [escapeWeight, List.all_cons, raw, Bool.true_and, escapeWeight]

theorem escapeWeight_eq_zero_iff {s : List Char} : escapeWeight s = 0 ↔ s.all isRaw = true := by
  unfold escapeWeight
  split <;> simp_all

/-- The weight of a text with a mark on each side. -/
def quotedWeight (s : String) : Nat := textWeight s.toList + 2

/-- The weight of a string: its characters, the two marks, and an escape if it needs one. -/
def stringWeight (s : String) : Nat := quotedWeight s + escapeWeight s.toList

/-! ### Text that is skipped -/

theorem textWeight_skipSpace_le (s : List Char) : textWeight (skipSpace s) ≤ textWeight s :=
  textWeight_dropWhile_le _ s

theorem textWeight_skipTrivia_le (inComment : Bool) (s : List Char) :
    textWeight (skipTrivia inComment s) ≤ textWeight s := by
  fun_induction skipTrivia inComment s <;> (try simp only [textWeight_cons]) <;> omega

theorem textWeight_skipNewline?_le {s r : List Char} (h : skipNewline? s = some r) :
    textWeight r ≤ textWeight s := by
  unfold skipNewline? at h
  split at h <;> cases h <;> simp only [textWeight_cons] <;> omega

theorem textWeight_skipFirstNewline_le (s : List Char) :
    textWeight (skipFirstNewline s) ≤ textWeight s := by
  unfold skipFirstNewline
  cases h : skipNewline? s with
  | none => exact Nat.le_refl _
  | some r => exact textWeight_skipNewline?_le h

theorem textWeight_swallow_le (s : List Char) :
    textWeight (skipLineEnd?.swallow s) ≤ textWeight s := by
  fun_induction skipLineEnd?.swallow s <;> (try simp only [textWeight_cons]) <;> omega

theorem textWeight_skipLineEnd?_le {s r : List Char} (h : skipLineEnd? s = some r) :
    textWeight r ≤ textWeight s := by
  obtain ⟨t, newline, rfl⟩ := Option.map_eq_some_iff.1 h
  have blanks := textWeight_swallow_le t
  have line := textWeight_skipNewline?_le newline
  have spaces := textWeight_skipSpace_le s
  omega

/-! ### Strings -/

/-- An escape has at least one character behind its backslash that counts. -/
theorem textWeight_of_readEscape? {s r : List Char} {c : Char} (h : readEscape? s = some (c, r)) :
    1 + textWeight r ≤ textWeight s := by
  unfold readEscape? at h
  split at h
  · obtain ⟨_, -, h⟩ := Option.map_eq_some_iff.1 h
    cases h
    have letter : charWeight 'u' = 1 := by decide
    simp only [textWeight_cons]
    omega
  · obtain ⟨_, -, h⟩ := Option.map_eq_some_iff.1 h
    cases h
    have letter : charWeight 'U' = 1 := by decide
    simp only [textWeight_cons]
    omega
  · rename_i letter r' _ _
    obtain ⟨_, named, h⟩ := Option.map_eq_some_iff.1 h
    cases h
    have counts : 1 ≤ charWeight letter := by
      unfold escaped? at named
      split at named <;> first | decide | cases named
    rw [textWeight_cons]
    omega
  · cases h

/-- A string between quotation marks pays for the closing mark, and for an escape if it needs one. -/
theorem textWeight_of_readBasic? {s r content : List Char} (h : readBasic? s = some (content, r)) :
    textWeight content + 1 + escapeWeight content + textWeight r ≤ textWeight s := by
  fun_induction readBasic? s generalizing content with
  | case1 => cases h
  | case2 r =>
    cases h
    have mark : charWeight '"' = 1 := by decide
    simp [escapeWeight, mark]
  | case3 => cases h
  | case4 _ c _ escape ih =>
    obtain ⟨⟨content', r'⟩, rest, same⟩ := Option.map_eq_some_iff.1 h
    cases same
    have below := ih rest
    have paid := textWeight_of_readEscape? escape
    have light := charWeight_le c
    have once := escapeWeight_le ([c] ++ content')
    have backslash : charWeight '\\' = 2 := by decide
    rw [textWeight_append, textWeight_cons, textWeight_cons, textWeight_nil]
    omega
  | case5 c _ notQuote notBackslash plain ih =>
    obtain ⟨⟨content', r'⟩, rest, same⟩ := Option.map_eq_some_iff.1 h
    cases same
    have below := ih rest
    have raw : isRaw c = true := by
      simp only [isRaw, bne_iff_ne, plain, Bool.and_true, Bool.and_eq_true]
      exact ⟨notQuote, notBackslash⟩
    rw [List.singleton_append, escapeWeight_cons raw, textWeight_cons, textWeight_cons]
    omega
  | case6 => cases h

theorem textWeight_of_readLiteral? {s r content : List Char} (h : readLiteral? s = some (content, r)) :
    textWeight content + 2 + textWeight r ≤ textWeight s := by
  dsimp only [readLiteral?] at h
  split at h
  · rename_i ends
    cases h
    have parts := List.takeWhile_append_dropWhile (p := fun c => c != '\'' && isPlain c) (l := s)
    have whole := congrArg textWeight parts
    have mark : charWeight '\'' = 2 := by decide
    rw [ends, textWeight_append, textWeight_cons] at whole
    omega
  · cases h

/-- What is put in front of the content of a string adds its own weight. -/
theorem textWeight_of_withChars {cs content r : List Char} {inner : Option (List Char × List Char)}
    {marks whole : Nat} (h : withChars cs inner = some (content, r))
    (paid : ∀ {content'}, inner = some (content', r) →
      textWeight content' + marks + textWeight r ≤ whole) :
    textWeight content + marks + textWeight r ≤ textWeight cs + whole := by
  obtain ⟨⟨content', r'⟩, rest, same⟩ := Option.map_eq_some_iff.1 h
  cases same
  have below := paid rest
  rw [textWeight_append]
  omega

theorem textWeight_of_readLongBasic? {s r content : List Char}
    (h : readLongBasic? s = some (content, r)) :
    textWeight content + 3 + textWeight r ≤ textWeight s := by
  have mark : charWeight '"' = 1 := by decide
  have backslash : charWeight '\\' = 2 := by decide
  fun_induction readLongBasic? s generalizing content with
  | case1 => cases h
  | case2 => cases h; simp only [textWeight_cons, textWeight_nil, mark]; omega
  | case3 => cases h; simp only [textWeight_cons, textWeight_nil, mark]; omega
  | case4 => cases h; simp only [textWeight_cons, textWeight_nil, mark]; omega
  | case5 _ _ _ _ ih => simpa using textWeight_of_withChars h ih
  | case6 _ _ skipped ih =>
    have below := ih h
    have shorter := textWeight_skipLineEnd?_le skipped
    rw [textWeight_cons]
    omega
  | case7 => cases h
  | case8 _ _ c _ escape ih =>
    have below := textWeight_of_withChars h ih
    have paid := textWeight_of_readEscape? escape
    have light := charWeight_le c
    simp only [textWeight_cons, textWeight_nil] at below ⊢
    omega
  | case9 _ ih => simpa using textWeight_of_withChars h ih
  | case10 _ ih =>
    have below := textWeight_of_withChars h ih
    simp only [textWeight_cons, textWeight_nil] at below ⊢
    omega
  | case11 _ _ _ _ _ _ _ _ _ _ ih => simpa using textWeight_of_withChars h ih
  | case12 => cases h

theorem textWeight_of_readLongLiteral? {s r content : List Char}
    (h : readLongLiteral? s = some (content, r)) :
    textWeight content + 3 + textWeight r ≤ textWeight s := by
  have mark : charWeight '\'' = 2 := by decide
  fun_induction readLongLiteral? s generalizing content with
  | case1 => cases h
  | case2 => cases h; simp only [textWeight_cons, textWeight_nil, mark]; omega
  | case3 => cases h; simp only [textWeight_cons, textWeight_nil, mark]; omega
  | case4 => cases h; simp only [textWeight_cons, textWeight_nil, mark]; omega
  | case5 _ ih => simpa using textWeight_of_withChars h ih
  | case6 _ ih =>
    have below := textWeight_of_withChars h ih
    simp only [textWeight_cons, textWeight_nil] at below ⊢
    omega
  | case7 _ _ _ _ _ _ _ _ ih => simpa using textWeight_of_withChars h ih
  | case8 => cases h

theorem stringWeight_ofList (s : List Char) :
    stringWeight (String.ofList s) = textWeight s + 2 + escapeWeight s := by
  rw [stringWeight, quotedWeight, String.toList_ofList]

theorem textWeight_of_readLine? {s r content : List Char} (h : readLine? s = some (content, r)) :
    textWeight content + 2 + escapeWeight content + textWeight r ≤ textWeight s := by
  have once := escapeWeight_le content
  unfold readLine? at h
  split at h
  · have paid := textWeight_of_readBasic? h
    have mark : charWeight '"' = 1 := by decide
    rw [textWeight_cons]
    omega
  · have paid := textWeight_of_readLiteral? h
    have mark : charWeight '\'' = 2 := by decide
    rw [textWeight_cons]
    omega
  · cases h

theorem textWeight_of_readString? {s r content : List Char} (h : readString? s = some (content, r)) :
    textWeight content + 2 + escapeWeight content + textWeight r ≤ textWeight s := by
  have once := escapeWeight_le content
  unfold readString? at h
  split at h
  · rename_i t
    have paid := textWeight_of_readLongBasic? h
    have newline := textWeight_skipFirstNewline_le t
    simp only [textWeight_cons]
    omega
  · rename_i t
    have paid := textWeight_of_readLongLiteral? h
    have newline := textWeight_skipFirstNewline_le t
    simp only [textWeight_cons]
    omega
  · exact textWeight_of_readLine? h

theorem pays_lineReader : lineReader.Pays textWeight stringWeight := by
  refine Reader.Pays.map fun s r content h => ?_
  simp only [stringWeight_ofList]
  exact textWeight_of_readLine? h

/-- **Strings are paid for, whichever way they are written.** -/
theorem pays_stringReader : stringReader.Pays textWeight stringWeight := by
  refine Reader.Pays.map fun s r content h => ?_
  simp only [stringWeight_ofList]
  exact textWeight_of_readString? h

/-! ### Keys -/

/-- The weight of a name. -/
def nameWeight (name : String) : Nat := textWeight name.toList

theorem pays_bareReader : bareReader.Pays textWeight nameWeight := by
  intro s r name h
  dsimp only [bareReader] at h
  split at h
  · cases h
  · cases h
    have parts := List.takeWhile_append_dropWhile (p := isBareChar) (l := s)
    rw [nameWeight, String.toList_ofList, ← textWeight_append, parts]

theorem pays_nameReader : nameReader.Pays textWeight nameWeight := by
  refine Reader.Pays.orElse (pays_lineReader.mono fun name => ?_) pays_bareReader
  rw [stringWeight, quotedWeight, Nat.add_assoc]
  exact Nat.le_add_right _ _

theorem textWeight_of_readNames? {s r : List Char} {names : List String}
    (h : readNames? s = some (names, r)) :
    (names.map nameWeight).sum + textWeight r ≤ textWeight s := by
  fun_induction readNames? s generalizing names with
  | case1 => cases h
  | case2 s _ rest read _ dot ih =>
    obtain ⟨⟨_, _⟩, more, same⟩ := Option.map_eq_some_iff.1 h
    cases same
    have below := ih more
    have paid := pays_nameReader _ _ _ read
    have before := textWeight_skipSpace_le s
    have behind := textWeight_skipSpace_le rest
    rw [dot, textWeight_cons] at behind
    rw [List.map_cons, List.sum_cons]
    omega
  | case3 s _ rest read =>
    cases h
    have paid := pays_nameReader _ _ _ read
    have before := textWeight_skipSpace_le s
    have behind := textWeight_skipSpace_le rest
    rw [List.map_singleton, List.sum_singleton]
    omega

theorem Key.name_mem_of_ofNames? {names : List String} {key : Key} (h : ofNames? names = some key) :
    key.name ∈ names := by
  unfold ofNames? at h
  split at h
  · rename_i name last
    split at h
    · cases h
      exact List.mem_of_getLast? last
    · cases h
  · cases h

theorem pays_keyReader : keyReader.Pays textWeight fun key => nameWeight key.name := by
  intro s r key h
  obtain ⟨⟨names, rest⟩, read, named⟩ := Option.bind_eq_some_iff.1 h
  obtain ⟨key', made, same⟩ := Option.map_eq_some_iff.1 named
  cases same
  have paid := textWeight_of_readNames? read
  have part := List.le_sum_of_mem (List.mem_map_of_mem (f := nameWeight) (Key.name_mem_of_ofNames? made))
  dsimp only
  omega

end Toml

end ServiceShapes
