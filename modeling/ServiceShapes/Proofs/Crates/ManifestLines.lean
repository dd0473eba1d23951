import Mathlib.Data.List.Perm.Subperm
import ServiceShapes.Crate.Dependency
import ServiceShapes.Proofs.KeyedLists
import ServiceShapes.Proofs.Toml.Reading

/-!
# What a manifest line declares

The line of a dependency is read back by the rules of TOML: an inline table of one name, with a version or
a path, and a list of features (`Dependency.ofManifest?`).

The line puts texts between quotation marks as they are.  So the dependency is read back if its texts need
no escapes (`Dependency.ofManifest?_manifestLine`), and no other is.  The second part needs more than a look
at the first character that goes wrong, since what is read behind it may make up for it: among several
features, each may be read from a place where another was written.  But nothing is read that was not paid
for, and the line pays for texts without escapes only (`Dependency.isRaw_of_ofManifest?`).
-/

namespace ServiceShapes

open Toml

/-! ### Reading a line -/

/-- The text of a string. -/
def Toml.string? : Toml → Option String
  | .string text => some text
  | _ => none

namespace CrateSource

/-- The key under which a manifest says where the crate comes from. -/
def key : CrateSource → String
  | .registry _ => "version"
  | .directory _ => "path"

/-- The version or the path. -/
def text : CrateSource → String
  | .registry version => version
  | .directory path => path

/-- Where a crate comes from, by the fields of its entry. -/
def ofFields? (fields : Entries) : Option CrateSource :=
  match fields.lookup "version", fields.lookup "path" with
  | some (.string version), none => some (.registry version)
  | none, some (.string path) => some (.directory path)
  | _, _ => none

end CrateSource

namespace FeatureSet

/-- The features of a crate, by the fields of its entry. -/
def ofFields? (fields : Entries) : Option FeatureSet :=
  match fields.lookup "features" with
  | none => some .empty
  | some (.array items) => (items.mapM Toml.string?).map ofList
  | some _ => none

theorem ofList_toList (features : FeatureSet) : ofList features.toList = features :=
  ext_mem fun x => by
    have none : x ∉ empty := List.not_mem_nil
    rw [ofList, mem_insertAll, or_iff_right none, mem_def]

end FeatureSet

namespace Dependency

/-- The dependency that a line of a dependency table declares. -/
def ofManifest? (line : String) : Option Dependency :=
  match Toml.read? line with
  | some [(name, .table .inline fields)] => do
    let source ← CrateSource.ofFields? fields
    let features ← FeatureSet.ofFields? fields
    some ⟨name, source, features⟩
  | _ => none

/-- The version or the path needs no escapes, and no feature does. -/
def IsRaw (d : Dependency) : Prop :=
  Toml.IsRaw d.source.text ∧ ∀ feature ∈ d.features.toList, Toml.IsRaw feature

instance (d : Dependency) : Decidable d.IsRaw := inferInstanceAs (Decidable (_ ∧ _))

variable {d : Dependency}

/-! ### The text of a line -/

/-- The text of the features behind their key. -/
def featureList (features : FeatureSet) : List Char := '[' :: stringItems features.toList ++ [']']

theorem sourceChars_eq (source : CrateSource) :
    sourceChars source = assignmentChars source.key (inQuotes source.text) := by
  cases source with
  | registry version =>
    have sign : "version = ".toList = "version".toList ++ [' ', '=', ' '] := by decide
    show "version = ".toList ++ inQuotes version = assignmentChars "version" (inQuotes version)
    rw [sign, List.append_assoc]
    rfl
  | directory path =>
    have sign : "path = ".toList = "path".toList ++ [' ', '=', ' '] := by decide
    show "path = ".toList ++ inQuotes path = assignmentChars "path" (inQuotes path)
    rw [sign, List.append_assoc]
    rfl

theorem featureChars_eq {features : FeatureSet} (filled : features.isEmpty = false) :
    featureChars features = ',' :: ' ' :: assignmentChars "features" (featureList features) := by
  have sign : ", features = [".toList = ',' :: ' ' :: ("features".toList ++ [' ', '=', ' ', '[']) := by
    decide
  rw [featureChars, filled, if_neg Bool.false_ne_true, sign]
  simp only [List.append_assoc, List.cons_append]
  rfl

/-- The text of a line behind the name: a table between braces. -/
def fieldChars (d : Dependency) : List Char :=
  '\x7b' :: ' ' :: sourceChars d.source ++ featureChars d.features ++ [' ', '\x7d']

theorem visible_fieldChars (d : Dependency) : ∀ c ∈ d.fieldChars.head?, isSpace c = false :=
  visible_cons (by decide) _

theorem manifestLine_eq (d : Dependency) :
    d.manifestLine = String.ofList (assignmentChars d.name d.fieldChars) := by
  simp [manifestLine, manifestChars, assignmentChars, fieldChars]

/-! ### Lines without escapes -/

theorem isBare_key (source : CrateSource) : IsBare source.key := by
  cases source with
  | registry version => exact (by decide : IsBare "version")
  | directory path => exact (by decide : IsBare "path")

/-- The fields that the line of a dependency has. -/
def fields (d : Dependency) : Entries :=
  (d.source.key, .string d.source.text) ::
    if d.features.isEmpty then [] else [("features", .array (d.features.toList.map .string))]

/-- The source is read as the first field, whatever follows. -/
theorem read_source (raw : d.IsRaw) {depth : Nat} {rest : List Char} (ends : rest.head? ≠ some '"') :
    (assignmentReader (nestedReader depth)).read? (' ' :: (sourceChars d.source ++ rest)) =
      some ((⟨[], d.source.key⟩, .string d.source.text), rest) := by
  have quoted : inQuotes d.source.text ++ rest = '"' :: d.source.text.toList ++ '"' :: rest := by
    simp [inQuotes]
  have chars : sourceChars d.source ++ rest =
      assignmentChars d.source.key ('"' :: d.source.text.toList ++ '"' :: rest) := by
    rw [sourceChars_eq, ← quoted]
    simp [assignmentChars]
  have visible : ∀ c ∈ ('"' :: d.source.text.toList ++ '"' :: rest).head?, isSpace c = false :=
    visible_cons (by decide) _
  rw [assignmentReader_space, chars, assignmentReader_bare _ (isBare_key _) visible,
    nestedReader_raw raw.1 ends]
  rfl

theorem read_features (raw : d.IsRaw) (filled : d.features.toList ≠ []) {depth : Nat} (rest : List Char) :
    (assignmentReader (nestedReader (depth + 1))).read?
        (' ' :: (assignmentChars "features" (featureList d.features) ++ rest)) =
      some ((⟨[], "features"⟩, .array (d.features.toList.map .string)), rest) := by
  have chars : assignmentChars "features" (featureList d.features) ++ rest =
      assignmentChars "features" ('[' :: stringItems d.features.toList ++ ']' :: rest) := by
    simp [assignmentChars, featureList]
  have bare : IsBare "features" := by decide
  have visible : ∀ c ∈ ('[' :: stringItems d.features.toList ++ ']' :: rest).head?, isSpace c = false :=
    visible_cons (by decide) _
  rw [assignmentReader_space, chars, assignmentReader_bare _ bare visible,
    arrayReader_strings filled raw.2]
  rfl

theorem readEntries?_fieldChars (raw : d.IsRaw) (depth : Nat) :
    readEntries? (assignmentReader (nestedReader (depth + 1)))
        (' ' :: (sourceChars d.source ++ (featureChars d.features ++ [' ', '\x7d']))) =
      some (d.fields.map assignmentOf, []) := by
  cases empty : d.features.isEmpty with
  | true =>
    have none : featureChars d.features = [] := if_pos empty
    rw [none, readEntries?_last (read_source raw (by simp)) (by rfl), fields, empty, if_pos rfl]
    rfl
  | false =>
    have filled : d.features.toList ≠ [] := by simpa [FeatureSet.isEmpty] using empty
    have list : featureChars d.features ++ [' ', '\x7d'] =
        ',' :: ' ' :: (assignmentChars "features" (featureList d.features) ++ [' ', '\x7d']) := by
      rw [featureChars_eq empty]
      rfl
    rw [list, readEntries?_more (read_source raw (by simp)) (by rfl),
      readEntries?_last (read_features raw filled _) (by rfl), fields, empty, if_neg Bool.false_ne_true]
    rfl

theorem key_ne_features (source : CrateSource) : source.key ≠ "features" := by
  cases source with
  | registry version => exact (by decide : "version" ≠ "features")
  | directory path => exact (by decide : "path" ≠ "features")

theorem nodup_fields (d : Dependency) : (d.fields.map Prod.fst).Nodup := by
  unfold fields
  split <;> simp [key_ne_features d.source]

/-- **A line without escapes is a table of its fields.** -/
theorem read?_manifestLine (bare : IsBare d.name) (raw : d.IsRaw) :
    Toml.read? d.manifestLine = some [(d.name, .table .inline d.fields)] := by
  -- the braces take one of the levels that values may nest, and the brackets another one
  have inside : readBraced? (nestedReader 78)
      (' ' :: (sourceChars d.source ++ (featureChars d.features ++ [' ', '\x7d']))) =
        some (d.fields.map assignmentOf, []) := by
    rw [← readEntries?_fieldChars raw 77, sourceChars_eq, assignmentChars, List.append_assoc]
    exact readBraced?_bare _ (isBare_key _) _
  have table : (bracedReader (nestedReader 78)).read? d.fieldChars = some (.table .inline d.fields, []) := by
    rw [fieldChars, List.append_assoc]
    exact bracedReader_of_readBraced? inside d.nodup_fields
  rw [manifestLine_eq]
  exact read?_assignment bare d.visible_fieldChars ((nestedReader_brace 78 _).trans table)

theorem ofFields?_source (d : Dependency) : CrateSource.ofFields? d.fields = some d.source := by
  obtain ⟨name, source, features⟩ := d
  unfold fields CrateSource.ofFields?
  cases source <;> cases features.isEmpty <;>
    simp [CrateSource.key, CrateSource.text, List.lookup_cons]

theorem mapM_string? (texts : List String) : (texts.map Toml.string).mapM Toml.string? = some texts := by
  induction texts with
  | nil => rfl
  | cons text texts ih =>
    rw [List.map_cons, List.mapM_cons, ih]
    rfl

theorem ofFields?_features (d : Dependency) : FeatureSet.ofFields? d.fields = some d.features := by
  have other : ("features" == d.source.key) = false := beq_false_of_ne (key_ne_features d.source).symm
  unfold FeatureSet.ofFields? fields
  rw [List.lookup_cons, other]
  cases empty : d.features.isEmpty with
  | true =>
    have none : d.features = .empty := FeatureSet.ext (List.isEmpty_iff.1 empty)
    rw [none]
    rfl
  | false =>
    show ((d.features.toList.map Toml.string).mapM Toml.string?).map FeatureSet.ofList = some d.features
    rw [mapM_string?, Option.map_some, FeatureSet.ofList_toList]

/-- **A dependency without escapes is read back from its line.** -/
theorem ofManifest?_manifestLine (bare : IsBare d.name) (raw : d.IsRaw) :
    ofManifest? d.manifestLine = some d := by
  rw [ofManifest?, read?_manifestLine bare raw]
  simp [ofFields?_source, ofFields?_features]

/-! ### What a line pays for -/

/-- Distinct members of a list weigh no more than the list. -/
theorem sum_map_le_of_nodup_of_subset {α : Type} {l m : List α} (weight : α → Nat) (distinct : l.Nodup)
    (subset : l ⊆ m) : (l.map weight).sum ≤ (m.map weight).sum := by
  obtain ⟨l', same, inside⟩ := distinct.subperm subset
  rw [← (same.map weight).sum_eq]
  exact (inside.map weight).sum_le_sum fun _ _ => Nat.zero_le _

/-- What features weigh as a field of an entry, by the weight of each. -/
def featuresWeight (weight : String → Nat) (features : FeatureSet) : Nat :=
  if features.isEmpty then 0 else nameWeight "features" + 1 + (2 + (features.toList.map weight).sum)

theorem weights_of_mapM_string? {items : List Toml} {texts : List String}
    (read : items.mapM Toml.string? = some texts) : weights items = (texts.map stringWeight).sum := by
  induction items generalizing texts with
  | nil =>
    cases read
    rfl
  | cons item items ih =>
    rw [List.mapM_cons] at read
    obtain ⟨text, first, read⟩ := Option.bind_eq_some_iff.1 read
    obtain ⟨others, rest, same⟩ := Option.bind_eq_some_iff.1 read
    cases same
    have string : item = .string text := by
      unfold Toml.string? at first
      split at first <;> cases first
      rfl
    rw [weights, ih rest, string, weight, List.map_cons, List.sum_cons]

/-- A list may name a feature more than once, and pays for each time. -/
theorem sum_ofList_le (texts : List String) :
    ((FeatureSet.ofList texts).toList.map stringWeight).sum ≤ (texts.map stringWeight).sum := by
  have distinct : (FeatureSet.ofList texts).toList.Nodup :=
    (FeatureSet.ofList texts).sorted.imp fun before => String.ne_of_lt before
  refine sum_map_le_of_nodup_of_subset _ distinct fun x hx => ?_
  exact (FeatureSet.mem_insertAll.1 hx).resolve_left List.not_mem_nil

theorem featuresWeight_le {fields : Entries} {features : FeatureSet}
    (enabled : FeatureSet.ofFields? fields = some features) :
    featuresWeight stringWeight features = 0 ∨ ∃ value, ("features", value) ∈ fields ∧
      featuresWeight stringWeight features ≤ fieldWeight ("features", value) := by
  unfold FeatureSet.ofFields? at enabled
  split at enabled
  · cases enabled
    exact .inl rfl
  · rename_i items found
    obtain ⟨texts, read, rfl⟩ := Option.map_eq_some_iff.1 enabled
    refine .inr ⟨_, List.mem_of_lookup found, ?_⟩
    have listed := sum_ofList_le texts
    have paid := weights_of_mapM_string? read
    unfold featuresWeight
    split
    · exact Nat.zero_le _
    · have field : fieldWeight ("features", .array items) = nameWeight "features" + 1 + (2 + weights items) := by
        simp [fieldWeight, weight]
      omega
  · cases enabled

theorem mem_of_ofFields? {fields : Entries} {source : CrateSource}
    (origin : CrateSource.ofFields? fields = some source) : (source.key, .string source.text) ∈ fields := by
  unfold CrateSource.ofFields? at origin
  split at origin
  · cases origin
    exact List.mem_of_lookup ‹_›
  · cases origin
    exact List.mem_of_lookup ‹_›
  · cases origin

/-- The fields of an entry weigh at least what is read from them. -/
theorem le_entriesWeight {fields : Entries} {source : CrateSource} {features : FeatureSet}
    (origin : CrateSource.ofFields? fields = some source)
    (enabled : FeatureSet.ofFields? fields = some features) :
    nameWeight source.key + 1 + stringWeight source.text + featuresWeight stringWeight features ≤
      entriesWeight fields := by
  have first := mem_of_ofFields? origin
  have own : fieldWeight (source.key, .string source.text) =
      nameWeight source.key + 1 + stringWeight source.text := by
    simp [fieldWeight, weight]
  rcases featuresWeight_le enabled with none | ⟨value, second, le⟩
  · have part := List.le_sum_of_mem (List.mem_map_of_mem (f := fieldWeight) first)
    rw [entriesWeight]
    omega
  · have distinct : [(source.key, Toml.string source.text), ("features", value)].Nodup := by
      simp [key_ne_features source]
    have both := sum_map_le_of_nodup_of_subset fieldWeight distinct
      (List.cons_subset.2 ⟨first, List.cons_subset.2 ⟨second, List.nil_subset _⟩⟩)
    simp only [List.map_cons, List.map_nil, List.sum_cons, List.sum_nil] at both
    rw [entriesWeight]
    omega

theorem textWeight_assignmentChars (name : String) (s : List Char) :
    textWeight (assignmentChars name s) = nameWeight name + 1 + textWeight s := by
  have space : charWeight ' ' = 0 := by decide
  have sign : charWeight '=' = 1 := by decide
  simp only [assignmentChars, textWeight_append, textWeight_cons, space, sign, nameWeight]
  omega

theorem textWeight_inQuotes (text : String) : textWeight (inQuotes text) = quotedWeight text := by
  have mark : charWeight '"' = 1 := by decide
  simp only [inQuotes, quotedWeight, textWeight_append, textWeight_cons, textWeight_nil, mark]
  omega

theorem textWeight_stringItems (texts : List String) :
    textWeight (stringItems texts) = (texts.map quotedWeight).sum := by
  have between : charWeight ',' + charWeight ' ' = 0 := by decide
  induction texts with
  | nil => rfl
  | cons text texts ih =>
    rw [List.map_cons, List.sum_cons, ← textWeight_inQuotes]
    cases texts with
    | nil => simp [stringItems, inQuotes]
    | cons next texts =>
      have whole : stringItems (text :: next :: texts) =
          inQuotes text ++ ',' :: ' ' :: stringItems (next :: texts) := by
        simp [stringItems_cons_cons, inQuotes]
      rw [whole, textWeight_append, textWeight_cons, textWeight_cons, ih]
      omega

theorem textWeight_featureList (features : FeatureSet) :
    textWeight (featureList features) = 2 + (features.toList.map quotedWeight).sum := by
  have opening : charWeight '[' = 1 := by decide
  have closing : charWeight ']' = 1 := by decide
  simp only [featureList, textWeight_append, textWeight_cons, textWeight_nil, textWeight_stringItems,
    opening, closing]
  omega

theorem textWeight_featureChars (features : FeatureSet) :
    textWeight (featureChars features) = featuresWeight quotedWeight features := by
  have space : charWeight ' ' = 0 := by decide
  have comma : charWeight ',' = 0 := by decide
  cases empty : features.isEmpty with
  | true => rw [featureChars, featuresWeight, empty, if_pos rfl, if_pos rfl, textWeight_nil]
  | false =>
    rw [featureChars_eq empty, featuresWeight, empty, if_neg Bool.false_ne_true, textWeight_cons,
      textWeight_cons, textWeight_assignmentChars, textWeight_featureList]
    omega

theorem textWeight_fieldChars (d : Dependency) : textWeight d.fieldChars =
    nameWeight d.source.key + 1 + quotedWeight d.source.text + featuresWeight quotedWeight d.features + 2 := by
  have space : charWeight ' ' = 0 := by decide
  have opening : charWeight '\x7b' = 1 := by decide
  have closing : charWeight '\x7d' = 1 := by decide
  simp only [fieldChars, sourceChars_eq, textWeight_append, textWeight_cons, textWeight_nil,
    textWeight_assignmentChars, textWeight_inQuotes, textWeight_featureChars, space, opening, closing]
  omega

/-- **What is read from a line was paid for by the line.** -/
theorem exists_fields_of_ofManifest? (bare : IsBare d.name) {e : Dependency}
    (h : ofManifest? d.manifestLine = some e) :
    ∃ fields, CrateSource.ofFields? fields = some e.source ∧
      FeatureSet.ofFields? fields = some e.features ∧ entriesWeight fields + 2 ≤ textWeight d.fieldChars := by
  unfold ofManifest? at h
  split at h
  · rename_i name fields read
    obtain ⟨source, origin, h⟩ := Option.bind_eq_some_iff.1 h
    obtain ⟨features, enabled, h⟩ := Option.bind_eq_some_iff.1 h
    cases h
    rw [manifestLine_eq, read?_eq bare d.visible_fieldChars] at read
    obtain ⟨⟨value, rest⟩, table, read⟩ := Option.bind_eq_some_iff.1 read
    obtain ⟨more, -, read⟩ := Option.bind_eq_some_iff.1 read
    obtain ⟨statements, -, read⟩ := Option.bind_eq_some_iff.1 read
    obtain ⟨fields', rfl, paid⟩ := entriesWeight_of_bracedReader (pays_nestedReader 78)
      ((nestedReader_brace 78 _).symm.trans table)
    have found := List.mem_of_lookup (HasInline.ofStatements? read)
    cases List.mem_singleton.1 found
    exact ⟨fields, origin, enabled, (Nat.le_add_right _ _).trans paid⟩
  · cases h

/-- Features weigh the same when they are read as in a line, but for the escapes. -/
theorem featuresWeight_stringWeight (features : FeatureSet) : featuresWeight stringWeight features =
    featuresWeight quotedWeight features +
      (features.toList.map fun text => escapeWeight text.toList).sum := by
  cases empty : features.isEmpty with
  | true =>
    have none : features.toList = [] := List.isEmpty_iff.1 empty
    rw [featuresWeight, featuresWeight, empty, if_pos rfl, if_pos rfl, none]
    rfl
  | false =>
    have split : (features.toList.map stringWeight).sum = (features.toList.map quotedWeight).sum +
        (features.toList.map fun text => escapeWeight text.toList).sum := List.sum_map_add
    rw [featuresWeight, featuresWeight, empty, if_neg Bool.false_ne_true, if_neg Bool.false_ne_true, split]
    omega

/-- **Only a dependency without escapes is read back from its line.** -/
theorem isRaw_of_ofManifest? (bare : IsBare d.name) (h : ofManifest? d.manifestLine = some d) : d.IsRaw := by
  obtain ⟨fields, origin, enabled, paid⟩ := exists_fields_of_ofManifest? bare h
  have least := le_entriesWeight origin enabled
  rw [textWeight_fieldChars] at paid
  rw [stringWeight, featuresWeight_stringWeight] at least
  refine ⟨escapeWeight_eq_zero_iff.1 (by omega), fun feature mem => escapeWeight_eq_zero_iff.1 ?_⟩
  have part := List.le_sum_of_mem
    (List.mem_map_of_mem (f := fun text : String => escapeWeight text.toList) mem)
  omega

/-- **A dependency is read back from its line exactly if its texts need no escapes**, and no other such
dependency has the same line.  One way the line is read from its beginning to its end; the other way
characters are counted, since a text that needs escapes weighs more than its line has to give
(`isRaw_of_ofManifest?`). -/
theorem manifestLine_lossless_iff (d : Dependency) (bare : IsBare d.name) :
    (ofManifest? d.manifestLine = some d ↔ d.IsRaw) ∧
    (d.IsRaw → ∀ e : Dependency, IsBare e.name → e.IsRaw → e.manifestLine = d.manifestLine → e = d) := by
  refine ⟨⟨isRaw_of_ofManifest? bare, ofManifest?_manifestLine bare⟩, fun raw e bare' raw' same => ?_⟩
  have read := ofManifest?_manifestLine bare' raw'
  rw [same, ofManifest?_manifestLine bare raw] at read
  exact (Option.some.inj read).symm

/-- A directory with braces, an apostrophe and a number sign in its path, and two features. -/
def sharedTools : Dependency where
  name := "shared-tools"
  source := .directory "../client's tools, \x7b1\x7d #2"
  features := ⟨["a, b", "c = d"], by decide⟩

/-- It is read back, and the line with one feature less is another one. -/
theorem sharedTools_lossless :
    ofManifest? sharedTools.manifestLine = some sharedTools ∧
    sharedTools.manifestLine ≠ { sharedTools with features := ⟨["a, b"], by decide⟩ }.manifestLine := by
  have raw : sharedTools.IsRaw := by decide
  have lossless := manifestLine_lossless_iff sharedTools (by decide)
  refine ⟨lossless.1.2 raw, fun same => ?_⟩
  exact absurd (lossless.2 raw _ (by decide) (by decide) same.symm) (by decide)

/-- A directory with a backslash in its path, which is read as the start of an escape. -/
def backslashed : Dependency := { name := "tools", source := .directory "..\\tools" }

/-- It is not read back; and a crate with two features has the line of the same crate with a single one,
which has the marks and the comma between the two in it. -/
theorem backslashed_not_lossless :
    IsBare backslashed.name ∧ ofManifest? backslashed.manifestLine ≠ some backslashed ∧
    ∃ d e : Dependency, IsBare d.name ∧ d.name = e.name ∧ d ≠ e ∧ d.manifestLine = e.manifestLine := by
  refine ⟨by decide, fun same => ?_, ((ofRegistry "a" "1").withFeature "x").withFeature "y",
    (ofRegistry "a" "1").withFeature "x\", \"y", by decide, rfl, by decide, ?_⟩
  · exact absurd (isRaw_of_ofManifest? (by decide) same) (by decide)
  · exact congrArg String.ofList (by decide)

end Dependency

end ServiceShapes
