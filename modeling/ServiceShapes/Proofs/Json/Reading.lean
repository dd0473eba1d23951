import ServiceShapes.Json.Printer
import ServiceShapes.Json.Reader
import ServiceShapes.Proofs.Json.Strings

/-!
# Reading back what is written

A value without numbers (`Json.Plain`) is read back from its text (`Json.read?_print`).

The proof follows the two passes of the reader, with the list of tokens of a value (`Json.tokens`)
in between: the scanner turns the text of a value into its tokens (`Json.scans_of_plain`), and the
second pass turns the tokens into the value (`Json.restores_of_plain`).  Both are stated for a value
in front of arbitrary text or tokens, which is what makes the inductions go through; the scanner
only asks that this text does not go on with the word that it may be in the middle of
(`Json.Delimited`).
-/

namespace ServiceShapes.Json

/-! ### Plain values -/

/-- A value without numbers and without broken parts that nests arrays and objects at most `depth`
deep. -/
inductive Plain : (depth : Nat) → Json → Prop
  | null {depth : Nat} : Plain depth .null
  | boolean {depth : Nat} (value : Bool) : Plain depth (.boolean value)
  | string {depth : Nat} (value : String) : Plain depth (.string value)
  | array {depth : Nat} {items : List Json} : (∀ item ∈ items, Plain depth item) →
      Plain (depth + 1) (.array items)
  | object {depth : Nat} {fields : List (String × Json)} :
      (∀ field ∈ fields, Plain depth field.2) → Plain (depth + 1) (.object fields)

theorem fitsAll_iff {depth : Nat} {items : List Json} :
    fitsAll depth items = true ↔ ∀ item ∈ items, item.fits depth = true := by
  induction items with
  | nil => simp [fitsAll]
  | cons item items ih => rw [fitsAll, Bool.and_eq_true, ih, List.forall_mem_cons]

theorem fitsFields_iff {depth : Nat} {fields : List (String × Json)} :
    fitsFields depth fields = true ↔ ∀ field ∈ fields, field.2.fits depth = true := by
  induction fields with
  | nil => simp [fitsFields]
  | cons field fields ih =>
    obtain ⟨name, value⟩ := field
    rw [fitsFields, Bool.and_eq_true, ih, List.forall_mem_cons]

/-- A plain value can be used. -/
theorem fits_of_plain {v : Json} {depth : Nat} (plain : v.Plain depth) : v.fits depth = true := by
  induction plain with
  | null => exact fits.eq_def _ _
  | boolean value => exact fits.eq_def _ _
  | string value => exact fits.eq_def _ _
  | array _ ih =>
    rw [fits]
    exact fitsAll_iff.2 ih
  | object _ ih =>
    rw [fits]
    exact fitsFields_iff.2 ih

/-- An array of texts. -/
theorem plain_strings (depth : Nat) (texts : List String) : (strings texts).Plain (depth + 1) := by
  refine .array fun item hitem => ?_
  obtain ⟨text, -, rfl⟩ := List.mem_map.1 hitem
  exact .string text

/-! ### The tokens of a value -/

mutual

/-- The tokens of a value. -/
def tokens : Json → List Token
  | .string value => [.string (some value)]
  | .array [] => [.openArray, .closeArray]
  | .array (item :: rest) => .openArray :: tokens item ++ itemTokens rest
  | .object [] => [.openObject, .closeObject]
  | .object ((name, value) :: rest) =>
    .openObject :: .string (some name) :: .colon :: tokens value ++ fieldTokens rest
  | scalar => [.scalar scalar]

/-- The tokens of the items after the first, up to the end of the array. -/
def itemTokens : List Json → List Token
  | [] => [.closeArray]
  | item :: rest => .comma :: tokens item ++ itemTokens rest

/-- The tokens of the fields after the first, up to the end of the object. -/
def fieldTokens : List (String × Json) → List Token
  | [] => [.closeObject]
  | (name, value) :: rest =>
    .comma :: .string (some name) :: .colon :: tokens value ++ fieldTokens rest

end

/-! ### From text to tokens -/

/-- The tokens of a text, after tokens that were found before it, last first. -/
def scanFrom (found : List Token) (s : List Char) : Option (List Token) :=
  (s.foldlM Scanner.step ⟨.between, found⟩).bind Scanner.finish

/-- Text that does not go on with a word. -/
def Delimited (s : List Char) : Prop := ∀ c ∈ s.head?, isWordChar c = false

theorem tokens?_eq (s : List Char) : tokens? s = scanFrom [] s := rfl

theorem scanFrom_nil (found : List Token) : scanFrom found [] = some found.reverse := rfl

/-- A punctuation character is a token. -/
theorem scanFrom_punctuation {c : Char} {t : Token} (h : Token.ofPunctuation? c = some t)
    (found : List Token) (rest : List Char) :
    scanFrom found (c :: rest) = scanFrom (t :: found) rest := by
  have punctuation : Scanner.startToken found c = some ⟨.between, t :: found⟩ := by
    unfold Token.ofPunctuation? at h
    split at h <;> cases h <;> rfl
  rw [scanFrom, List.foldlM_cons]
  simp only [Scanner.step, punctuation]
  rfl

/-- A word is a token as soon as it ends. -/
theorem scanFrom_word_end (seen : List Char) {t : Token} (h : Token.ofWord? seen.reverse = some t)
    (found : List Token) {rest : List Char} (delimited : Delimited rest) :
    (rest.foldlM Scanner.step ⟨.word seen, found⟩).bind Scanner.finish =
      scanFrom (t :: found) rest := by
  cases rest with
  | nil => simp [Scanner.finish, h, scanFrom_nil]
  | cons c rest =>
    have ends : isWordChar c = false := delimited c rfl
    have next : Scanner.step ⟨.word seen, found⟩ c = Scanner.step ⟨.between, t :: found⟩ c := by
      simp [Scanner.step, ends, h]
    rw [scanFrom, List.foldlM_cons, List.foldlM_cons, next]

/-- Inside a string, a quoted character is taken as it stands. -/
theorem foldlM_step_quoteChar (c : Char) (seen : List Char) (found : List Token) :
    (quoteChar c).foldlM Scanner.step ⟨.quoted seen, found⟩ =
      some ⟨.quoted ((quoteChar c).reverse ++ seen), found⟩ := by
  rcases quoteChar_eq c with ⟨e, -, -, form⟩ | ⟨control, form⟩ |
    ⟨-, notQuote, notBackslash, form⟩
  · rw [form]
    rfl
  · rw [form]
    have first := hexDigit_ne (n := c.toNat / 16) (by omega)
    have second := hexDigit_ne (n := c.toNat % 16) (by omega)
    simp [Scanner.step, first, second]
  · rw [form]
    simp [Scanner.step, notQuote, notBackslash]

theorem foldlM_step_quoted (s seen : List Char) (found : List Token) :
    (s.flatMap quoteChar).foldlM Scanner.step ⟨.quoted seen, found⟩ =
      some ⟨.quoted ((s.flatMap quoteChar).reverse ++ seen), found⟩ := by
  induction s generalizing seen with
  | nil => rfl
  | cons c s ih =>
    rw [List.flatMap_cons, List.foldlM_append, foldlM_step_quoteChar]
    simp only [Option.bind_eq_bind, Option.bind_some]
    rw [ih, List.reverse_append, List.append_assoc]

/-- **A quoted text is one token.** -/
theorem scanFrom_quote (s : String) (found : List Token) (rest : List Char) :
    scanFrom found (quote s.toList ++ rest) = scanFrom (.string (some s) :: found) rest := by
  obtain ⟨us, read, means⟩ := exists_units_of_quoted s.toList
  -- while scanning, an escape only hides the next character; what it means is found at the end
  have token : Token.ofQuoted? (s.toList.flatMap quoteChar) = some (.string (some s)) := by
    simp [Token.ofQuoted?, read, means]
  have opening : Scanner.step ⟨.between, found⟩ '"' = some ⟨.quoted [], found⟩ := rfl
  have closing : Scanner.step ⟨.quoted (s.toList.flatMap quoteChar).reverse, found⟩ '"' =
      some ⟨.between, .string (some s) :: found⟩ := by
    simp [Scanner.step, token]
  rw [scanFrom, quote, List.cons_append, List.cons_append, List.append_assoc, List.foldlM_cons,
    opening, Option.bind_eq_bind, Option.bind_some, List.foldlM_append, foldlM_step_quoted,
    Option.bind_eq_bind, Option.bind_some, List.append_nil, List.cons_append, List.nil_append,
    List.foldlM_cons, closing]
  rfl

theorem delimited_printItems (items : List Json) (rest : List Char) :
    Delimited (printItems items ++ rest) := by
  intro c first
  cases items <;> cases first <;> rfl

theorem delimited_printFields (fields : List (String × Json)) (rest : List Char) :
    Delimited (printFields fields ++ rest) := by
  intro c first
  rcases fields with _ | ⟨⟨name, value⟩, fields⟩ <;> cases first <;> rfl

/-- Wherever its text stands, a value is scanned to its tokens. -/
def Scans (v : Json) : Prop := ∀ found rest, Delimited rest →
  scanFrom found (v.print ++ rest) = scanFrom (v.tokens.reverse ++ found) rest

theorem scanFrom_printItems {items : List Json} (each : ∀ item ∈ items, item.Scans)
    (found : List Token) (rest : List Char) :
    scanFrom found (printItems items ++ rest) =
      scanFrom ((itemTokens items).reverse ++ found) rest := by
  induction items generalizing found with
  | nil => exact scanFrom_punctuation rfl found rest
  | cons item items ih =>
    obtain ⟨first, others⟩ := List.forall_mem_cons.1 each
    simp only [printItems, itemTokens, List.cons_append, List.append_assoc]
    rw [scanFrom_punctuation rfl, first _ _ (delimited_printItems items rest), ih others]
    simp

theorem scanFrom_printFields {fields : List (String × Json)}
    (each : ∀ field ∈ fields, field.2.Scans) (found : List Token) (rest : List Char) :
    scanFrom found (printFields fields ++ rest) =
      scanFrom ((fieldTokens fields).reverse ++ found) rest := by
  induction fields generalizing found with
  | nil => exact scanFrom_punctuation rfl found rest
  | cons field fields ih =>
    obtain ⟨first, others⟩ := List.forall_mem_cons.1 each
    simp only [printFields, fieldTokens, List.cons_append, List.append_assoc]
    rw [scanFrom_punctuation rfl, scanFrom_quote, scanFrom_punctuation rfl,
      first _ _ (delimited_printFields fields rest), ih others]
    simp

/-- **A value is scanned to its tokens.** -/
theorem scans_of_plain {v : Json} {depth : Nat} (plain : v.Plain depth) : v.Scans := by
  induction plain with
  | null => exact fun found _ => scanFrom_word_end ['l', 'l', 'u', 'n'] rfl found
  | boolean value =>
    cases value with
    | true => exact fun found _ => scanFrom_word_end ['e', 'u', 'r', 't'] rfl found
    | false => exact fun found _ => scanFrom_word_end ['e', 's', 'l', 'a', 'f'] rfl found
  | string value => exact fun found rest _ => scanFrom_quote value found rest
  | @array _ items _ ih =>
    intro found rest _
    cases items with
    | nil =>
      simp only [print, tokens, List.cons_append]
      rw [scanFrom_punctuation rfl, scanFrom_punctuation rfl]
      rfl
    | cons item items =>
      -- only the first item has no comma before it
      obtain ⟨first, others⟩ := List.forall_mem_cons.1 ih
      simp only [print, tokens, List.cons_append, List.append_assoc]
      rw [scanFrom_punctuation rfl, first _ _ (delimited_printItems items rest),
        scanFrom_printItems others]
      simp
  | @object _ fields _ ih =>
    intro found rest _
    cases fields with
    | nil =>
      simp only [print, tokens, List.cons_append]
      rw [scanFrom_punctuation rfl, scanFrom_punctuation rfl]
      rfl
    | cons field fields =>
      obtain ⟨first, others⟩ := List.forall_mem_cons.1 ih
      simp only [print, tokens, List.cons_append, List.append_assoc]
      rw [scanFrom_punctuation rfl, scanFrom_quote, scanFrom_punctuation rfl,
        first _ _ (delimited_printFields fields rest), scanFrom_printFields others]
      simp

/-- The tokens of the text of a value. -/
theorem tokens?_print {v : Json} {depth : Nat} (plain : v.Plain depth) :
    tokens? v.print = some v.tokens := by
  have ends : Delimited [] := nofun
  have scanned := scans_of_plain plain [] [] ends
  rw [List.append_nil, List.append_nil] at scanned
  rw [tokens?_eq, scanned, scanFrom_nil, List.reverse_reverse]

/-! ### From tokens to the value -/

/-- Where a value is awaited, the tokens of this one put it there. -/
def Restores (v : Json) : Prop := ∀ around rest,
  (v.tokens ++ rest).foldlM Awaiting.step (.value around) =
    rest.foldlM Awaiting.step (.complete v around)

/-- The tokens of a value are not those of the end of an array, so that at the start of an array
they are read as those of an item. -/
theorem foldlM_firstItem (v : Json) (around : List Open) (rest : List Token) :
    (v.tokens ++ rest).foldlM Awaiting.step (.firstItem around) =
      (v.tokens ++ rest).foldlM Awaiting.step (.value (.array [] :: around)) := by
  rcases v with _ | _ | _ | _ | _ | (_ | _) | (_ | _) | _ <;> rfl

theorem foldlM_itemTokens {items : List Json} (each : ∀ item ∈ items, item.Restores)
    (around : List Open) (seen : List Json) (rest : List Token) :
    (itemTokens items ++ rest).foldlM Awaiting.step (.nextItem around seen) =
      rest.foldlM Awaiting.step (.complete (.array (seen.reverse ++ items)) around) := by
  induction items generalizing seen with
  | nil =>
    rw [List.append_nil]
    rfl
  | cons item items ih =>
    obtain ⟨first, others⟩ := List.forall_mem_cons.1 each
    have comma : Awaiting.step (.nextItem around seen) .comma =
        some (.value (.array seen :: around)) := rfl
    rw [itemTokens, List.cons_append, List.cons_append, List.append_assoc, List.foldlM_cons, comma,
      Option.bind_eq_bind, Option.bind_some, first, Awaiting.complete, ih others,
      List.reverse_cons, List.append_assoc, List.singleton_append]

/-- A field as it is read. -/
def readField (field : String × Json) : Option String × Json := (some field.1, field.2)

/-- An object whose names are all sound is not broken. -/
theorem ofFields_map_readField (fields : List (String × Json)) :
    ofFields (fields.map readField) = .object fields := by
  have names : (fields.map readField).mapM
      (fun field => field.1.map fun name => (name, field.2)) = some fields := by
    induction fields with
    | nil => rfl
    | cons field fields ih =>
      rw [List.map_cons, List.mapM_cons, ih]
      rfl
  rw [ofFields, names]
  rfl

theorem foldlM_fieldTokens {fields : List (String × Json)}
    (each : ∀ field ∈ fields, field.2.Restores) (around : List Open) (seen : ReadFields)
    (rest : List Token) :
    (fieldTokens fields ++ rest).foldlM Awaiting.step (.nextField around seen) =
      rest.foldlM Awaiting.step
        (.complete (ofFields (seen.reverse ++ fields.map readField)) around) := by
  induction fields generalizing seen with
  | nil =>
    rw [List.map_nil, List.append_nil]
    rfl
  | cons field fields ih =>
    obtain ⟨first, others⟩ := List.forall_mem_cons.1 each
    -- the comma, the name and the colon lead to where the value is awaited
    have opening : (fieldTokens (field :: fields) ++ rest).foldlM Awaiting.step
        (.nextField around seen) = (field.2.tokens ++ (fieldTokens fields ++ rest)).foldlM
          Awaiting.step (.value (.object seen (some field.1) :: around)) := by
      rw [fieldTokens, List.cons_append, List.cons_append, List.cons_append, List.cons_append,
        List.append_assoc]
      rfl
    rw [opening, first, Awaiting.complete, ih others, List.reverse_cons, List.append_assoc,
      List.map_cons, List.singleton_append]
    rfl

/-- **The tokens of a value stand for it.** -/
theorem restores_of_plain {v : Json} {depth : Nat} (plain : v.Plain depth) : v.Restores := by
  induction plain with
  | null => exact fun _ _ => rfl
  | boolean value => exact fun _ _ => rfl
  | string value => exact fun _ _ => rfl
  | @array _ items _ ih =>
    intro around rest
    cases items with
    | nil => rfl
    | cons item items =>
      obtain ⟨first, others⟩ := List.forall_mem_cons.1 ih
      -- after the opening bracket the array might also end, which the first item rules out
      have opening : Awaiting.step (.value around) .openArray = some (.firstItem around) := rfl
      rw [tokens, List.cons_append, List.cons_append, List.append_assoc, List.foldlM_cons, opening,
        Option.bind_eq_bind, Option.bind_some, foldlM_firstItem, first, Awaiting.complete,
        foldlM_itemTokens others, List.reverse_singleton, List.singleton_append]
  | @object _ fields _ ih =>
    intro around rest
    cases fields with
    | nil => rfl
    | cons field fields =>
      obtain ⟨first, others⟩ := List.forall_mem_cons.1 ih
      have opening : ((object (field :: fields)).tokens ++ rest).foldlM Awaiting.step
          (.value around) = (field.2.tokens ++ (fieldTokens fields ++ rest)).foldlM
            Awaiting.step (.value (.object [] (some field.1) :: around)) := by
        rw [tokens, List.cons_append, List.cons_append, List.cons_append, List.cons_append,
          List.append_assoc]
        rfl
      have all : [(some field.1, field.2)].reverse ++ fields.map readField =
          (field :: fields).map readField := rfl
      rw [opening, first, Awaiting.complete, foldlM_fieldTokens others, all,
        ofFields_map_readField]

/-- **A value is read back from its text.** -/
theorem read?_print {v : Json} {depth : Nat} (plain : v.Plain depth) :
    read? v.print = some v := by
  have restored := restores_of_plain plain [] []
  rw [List.append_nil] at restored
  rw [read?, tokens?_print plain, Option.bind_some, ofTokens?, restored]
  rfl

end ServiceShapes.Json
