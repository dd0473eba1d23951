import ServiceShapes.Proofs.Toml.Filling
import ServiceShapes.Proofs.Toml.Weights

/-!
# What reading values costs

The values that count are strings and arrays, and tables do not.  `valueReader` pays for them however deep
they nest (`pays_nestedReader`), and a table between braces is paid for entry by entry
(`entriesWeight_of_bracedReader`): nothing is found in it that was not written there.
-/

namespace ServiceShapes.Toml

/-! ### Values -/

mutual

/-- The weight of a value: strings and arrays count. -/
def weight : Toml → Nat
  | .string text => stringWeight text
  | .array items => 2 + weights items
  | _ => 0

/-- The weight of the items of an array. -/
def weights : List Toml → Nat
  | [] => 0
  | item :: rest => weight item + weights rest

end

theorem weights_eq (items : List Toml) : weights items = (items.map weight).sum := by
  induction items with
  | nil => rfl
  | cons item rest ih => rw [weights, ih, List.map_cons, List.sum_cons]

/-- The weight of an entry: its name, the sign behind it, and the value; tables do not count. -/
def fieldWeight : String × Toml → Nat
  | (_, .table ..) | (_, .tables _) => 0
  | (name, value) => nameWeight name + 1 + weight value

/-- The weight of the entries of a table. -/
def entriesWeight (entries : Entries) : Nat := (entries.map fieldWeight).sum

/-- The weight of an assignment. -/
def assignmentWeight (assignment : Assignment) : Nat :=
  nameWeight assignment.1.name + 1 + weight assignment.2

/-! ### Filling tables -/

theorem fieldWeight_le (name : String) (value : Toml) :
    fieldWeight (name, value) ≤ nameWeight name + 1 + weight value := by
  unfold fieldWeight
  split
  · exact Nat.zero_le _
  · exact Nat.zero_le _
  · rename_i same
    cases same
    exact Nat.le_refl _

theorem entriesWeight_put_le (name : String) (value : Toml) (entries : Entries) :
    entriesWeight (put name value entries) ≤ entriesWeight entries + fieldWeight (name, value) := by
  induction entries with
  | nil => simp [put, entriesWeight]
  | cons entry rest ih =>
    obtain ⟨n, v⟩ := entry
    unfold entriesWeight at ih ⊢
    rw [put]
    split <;> simp only [List.map_cons, List.sum_cons] <;> omega

/-- Tables on the way to the place of a value add nothing. -/
theorem entriesWeight_of_edit? {made origin : TableOrigin}
    {change : TableOrigin → Entries → Option Entries} {path : List String}
    {entries entries' : Entries} {more : Nat}
    (changed : ∀ e, change origin entries = some e → entriesWeight e ≤ entriesWeight entries + more)
    (h : edit? made change path origin entries = some entries') :
    entriesWeight entries' ≤ entriesWeight entries + more := by
  rcases edit?_cases h with here | ⟨next, value, opened, -, rfl⟩
  · exact changed _ here
  · have light : fieldWeight (next, value) = 0 := by
      cases value <;> first | rfl | cases opened
    have put := entriesWeight_put_le next value entries
    omega

theorem entriesWeight_of_assign? {entries entries' : Entries} {assignment : Assignment}
    (h : assign? entries assignment = some entries') :
    entriesWeight entries' ≤ entriesWeight entries + assignmentWeight assignment := by
  obtain ⟨key, value⟩ := assignment
  refine entriesWeight_of_edit? (fun e changed => ?_) h
  split at changed
  · cases changed
    have field := fieldWeight_le key.name value
    simpa [entriesWeight, assignmentWeight] using field
  · cases changed

theorem entriesWeight_of_assignAll? {entries entries' : Entries} {assignments : List Assignment}
    (h : assignAll? entries assignments = some entries') :
    entriesWeight entries' ≤ entriesWeight entries + (assignments.map assignmentWeight).sum := by
  induction assignments generalizing entries with
  | nil =>
    cases h
    exact Nat.le_refl _
  | cons assignment rest ih =>
    rw [assignAll?, List.foldlM_cons] at h
    obtain ⟨between, first, others⟩ := Option.bind_eq_some_iff.1 h
    have one := entriesWeight_of_assign? first
    have all := ih others
    rw [List.map_cons, List.sum_cons]
    omega

/-! ### Reading values -/

theorem textWeight_of_readItems? {α : Type} {weight : α → Nat} {item : Reader α} {s r : List Char}
    {items : List α} (pays : item.Pays textWeight weight) (h : readItems? item s = some (items, r)) :
    (items.map weight).sum + 1 + textWeight r ≤ textWeight s := by
  have bracket : charWeight ']' = 1 := by decide
  fun_induction readItems? item s generalizing items with
  | case1 s _ ends =>
    cases h
    have before := textWeight_skipTrivia_le false s
    rw [ends, textWeight_cons] at before
    rw [List.map_nil, List.sum_nil]
    omega
  | case2 => cases h
  | case3 s _ rest read _ ends =>
    cases h
    have paid := pays _ _ _ read
    have before := textWeight_skipTrivia_le false s
    have behind := textWeight_skipTrivia_le false rest
    rw [ends, textWeight_cons] at behind
    rw [List.map_singleton, List.sum_singleton]
    omega
  | case4 s _ rest read _ comma _ ih =>
    obtain ⟨⟨_, _⟩, more, same⟩ := Option.map_eq_some_iff.1 h
    cases same
    have below := ih more
    have paid := pays _ _ _ read
    have before := textWeight_skipTrivia_le false s
    have behind := textWeight_skipTrivia_le false rest
    rw [comma, textWeight_cons] at behind
    rw [List.map_cons, List.sum_cons]
    omega
  | case5 => cases h

theorem pays_assignmentReader {value : Reader Toml} (pays : value.Pays textWeight weight) :
    (assignmentReader value).Pays textWeight assignmentWeight := by
  intro s r assignment h
  dsimp only [assignmentReader] at h
  split at h
  · rename_i key rest read
    obtain ⟨⟨_, _⟩, value, same⟩ := Option.map_eq_some_iff.1 h
    cases same
    have named := pays_keyReader _ _ _ read
    have paid := pays _ _ _ value
    have between := textWeight_skipSpace_le rest
    have sign : charWeight '=' = 1 := by decide
    rw [textWeight_cons] at named
    dsimp only [assignmentWeight] at named ⊢
    omega
  · cases h

theorem textWeight_of_readEntries? {α : Type} {weight : α → Nat} {entry : Reader α} {s r : List Char}
    {entries : List α} (pays : entry.Pays textWeight weight)
    (h : readEntries? entry s = some (entries, r)) :
    (entries.map weight).sum + 1 + textWeight r ≤ textWeight s := by
  have brace : charWeight '\x7d' = 1 := by decide
  fun_induction readEntries? entry s generalizing entries with
  | case1 => cases h
  | case2 s _ rest read _ ends =>
    cases h
    have paid := pays _ _ _ read
    have behind := textWeight_skipSpace_le rest
    rw [ends, textWeight_cons] at behind
    rw [List.map_singleton, List.sum_singleton]
    omega
  | case3 s _ rest read _ comma ih =>
    obtain ⟨⟨_, _⟩, more, same⟩ := Option.map_eq_some_iff.1 h
    cases same
    have below := ih more
    have paid := pays _ _ _ read
    have behind := textWeight_skipSpace_le rest
    rw [comma, textWeight_cons] at behind
    rw [List.map_cons, List.sum_cons]
    omega
  | case4 => cases h

theorem textWeight_of_readBraced? {value : Reader Toml} {s r : List Char} {entries : List Assignment}
    (pays : value.Pays textWeight weight) (h : readBraced? value s = some (entries, r)) :
    (entries.map assignmentWeight).sum + 1 + textWeight r ≤ textWeight s := by
  unfold readBraced? at h
  split at h
  · rename_i ends
    cases h
    have before := textWeight_skipSpace_le s
    have brace : charWeight '\x7d' = 1 := by decide
    rw [ends, textWeight_cons] at before
    rw [List.map_nil, List.sum_nil]
    omega
  · exact textWeight_of_readEntries? (pays_assignmentReader pays) h

/-- **A table between braces is paid for entry by entry**, and so are its braces. -/
theorem entriesWeight_of_bracedReader {value : Reader Toml} {s r : List Char} {table : Toml}
    (pays : value.Pays textWeight weight) (h : (bracedReader value).read? s = some (table, r)) :
    ∃ entries, table = .table .inline entries ∧ entriesWeight entries + 2 + textWeight r ≤ textWeight s := by
  dsimp only [bracedReader] at h
  split at h
  · obtain ⟨⟨assignments, _⟩, read, filled⟩ := Option.bind_eq_some_iff.1 h
    obtain ⟨entries, all, same⟩ := Option.map_eq_some_iff.1 filled
    cases same
    have paid := textWeight_of_readBraced? pays read
    have fields := entriesWeight_of_assignAll? all
    have brace : charWeight '\x7b' = 1 := by decide
    have empty : entriesWeight [] = 0 := rfl
    refine ⟨entries, rfl, ?_⟩
    rw [textWeight_cons]
    dsimp only at fields ⊢
    omega
  · cases h

theorem pays_arrayReader {value : Reader Toml} (pays : value.Pays textWeight weight) :
    (arrayReader value).Pays textWeight weight := by
  intro s r array h
  dsimp only [arrayReader] at h
  split at h
  · obtain ⟨⟨items, _⟩, read, same⟩ := Option.map_eq_some_iff.1 h
    cases same
    have paid := textWeight_of_readItems? pays read
    have bracket : charWeight '[' = 1 := by decide
    rw [weight, weights_eq, textWeight_cons]
    dsimp only
    omega
  · cases h

theorem pays_bracedReader {value : Reader Toml} (pays : value.Pays textWeight weight) :
    (bracedReader value).Pays textWeight weight := by
  intro s r table h
  obtain ⟨entries, rfl, paid⟩ := entriesWeight_of_bracedReader pays h
  have table : weight (.table .inline entries) = 0 := by simp [weight]
  omega

/-! ### Words -/

theorem weight_of_integer? {n : Int} {value : Toml} (h : integer? n = some value) : weight value = 0 := by
  unfold integer? at h
  split at h <;> cases h
  simp [weight]

theorem weight_of_float? {negative : Bool} {magnitude : Double} {value : Toml}
    (h : float? negative magnitude = some value) : weight value = 0 := by
  unfold float? at h
  split at h
  · cases h
    simp [weight]
  · split at h <;> cases h
    simp [weight]

theorem weight_of_decimal? {negative : Bool} {s : List Char} {value : Toml}
    (h : decimal? negative s = some value) : weight value = 0 := by
  obtain ⟨whole, -, h⟩ := Option.bind_eq_some_iff.1 h
  dsimp only at h
  split at h
  · exact weight_of_integer? h
  -- the fraction and the exponent may each be left out
  · split at h <;> obtain ⟨fraction, -, h⟩ := Option.bind_eq_some_iff.1 h <;> split at h
    all_goals obtain ⟨_, -, h⟩ := Option.bind_eq_some_iff.1 h
    · exact weight_of_float? h
    · obtain ⟨exponent, -, h⟩ := Option.bind_eq_some_iff.1 h
      exact weight_of_float? h
    · exact weight_of_float? h
    · obtain ⟨exponent, -, h⟩ := Option.bind_eq_some_iff.1 h
      exact weight_of_float? h

theorem weight_of_radixInteger? {base : Nat} {s : List Char} {value : Toml}
    (h : radixInteger? base s = some value) : weight value = 0 := by
  obtain ⟨digits, -, h⟩ := Option.bind_eq_some_iff.1 h
  exact weight_of_integer? h

theorem weight_of_number? {s : List Char} {value : Toml} (h : number? s = some value) :
    weight value = 0 := by
  unfold number? at h
  split at h
  · exact weight_of_radixInteger? h
  · exact weight_of_radixInteger? h
  · exact weight_of_radixInteger? h
  · dsimp only at h
    split at h
    · cases h
      simp [weight]
    · split at h
      · cases h
        simp [weight]
      · exact weight_of_decimal? h

/-- No word is a string or an array. -/
theorem weight_of_scalar? {word : List Char} {value : Toml} (h : scalar? word = some value) :
    weight value = 0 := by
  unfold scalar? at h
  split at h
  · cases h
    simp [weight]
  · split at h
    · cases h
      simp [weight]
    · split at h
      · cases h
        simp [weight]
      · exact weight_of_number? h

theorem textWeight_takeWord_le (s : List Char) : textWeight (takeWord s).2 ≤ textWeight s := by
  have behind := textWeight_dropWhile_le isWordChar s
  unfold takeWord
  dsimp only
  split
  · rename_i c rest ends
    rw [ends] at behind
    split
    · have time := textWeight_dropWhile_le isWordChar (c :: rest)
      dsimp only
      rw [textWeight_cons] at behind
      omega
    · exact behind
  · exact behind

theorem pays_scalarReader : scalarReader.Pays textWeight weight := by
  intro s r value h
  obtain ⟨value', named, same⟩ := Option.map_eq_some_iff.1 h
  cases same
  rw [weight_of_scalar? named, Nat.zero_add]
  exact textWeight_takeWord_le s

/-- **Values are paid for, however deep they nest.** -/
theorem pays_nestedReader (depth : Nat) : (nestedReader depth).Pays textWeight weight := by
  have text : (stringReader.map .string).Pays textWeight weight := by
    refine Reader.Pays.map (pays_stringReader.mono fun text => ?_)
    rw [weight]
  have word := text.orElse pays_scalarReader
  induction depth with
  | zero => exact word
  | succ depth ih => exact (pays_arrayReader ih).orElse ((pays_bracedReader ih).orElse word)

end ServiceShapes.Toml
