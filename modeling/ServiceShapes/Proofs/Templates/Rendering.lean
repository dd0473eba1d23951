import ServiceShapes.Proofs.Templates.Placeholders

/-!
# What rendering a text gives

A text without its indentation is cut in exactly one way into texts that open no placeholder,
placeholders, and perhaps a placeholder at its end that is never closed (`Template.eq_of_toChars_eq`).
Rendering goes by these pieces (`Template.Renders`): if every placeholder stands for an item and all are
closed, it puts the paths of the items in their places and merges the crates of the items in order; else
the first placeholder without an item is the error, or the one that is never closed if there is none such.

`Template.resolve` carries the number of bytes before the template along.  So the three cases are shown
for an arbitrary offset, by induction on the pieces.
-/

namespace ServiceShapes

/-! ### Entries of a scope -/

namespace Scope

variable {scope : Scope} {name : List Char} {item : RuntimeItem}

/-- The item is that of the first entry of the name. -/
def FirstEntry (scope : Scope) (name : List Char) (item : RuntimeItem) : Prop :=
  ∃ before after, scope.entries = before ++ (String.ofList name, item) :: after ∧
    ∀ entry ∈ before, entry.1 ≠ String.ofList name

/-- The scope has an entry of the name. -/
def Has (scope : Scope) (name : List Char) : Prop :=
  ∃ entry ∈ scope.entries, entry.1 = String.ofList name

theorem get?_eq_some_iff : scope.get? (String.ofList name) = some item ↔ scope.FirstEntry name item := by
  simp only [get?, List.lookup_eq_some_iff, FirstEntry, bne_iff_ne, ne_comm]

theorem get?_eq_none_iff : scope.get? (String.ofList name) = none ↔ ¬scope.Has name := by
  simp only [get?, List.lookup_eq_none_iff, Has, bne_iff_ne, not_exists, not_and, ne_comm]

theorem Has.exists_get? (h : scope.Has name) : ∃ item, scope.get? (String.ofList name) = some item := by
  rw [← Option.ne_none_iff_exists']
  exact fun absent => get?_eq_none_iff.1 absent h

/-- If there are names without an entry, one of them is the first. -/
theorem exists_first_without_entry {names : List (List Char)} (h : ¬∀ name ∈ names, scope.Has name) :
    ∃ before name after, names = before ++ name :: after ∧
      (∀ other ∈ before, scope.Has other) ∧ ¬scope.Has name := by
  induction names with
  | nil => exact absurd (List.forall_mem_nil _) h
  | cons first names ih =>
    by_cases has : scope.Has first
    · have later : ¬∀ name ∈ names, scope.Has name :=
        fun all => h (List.forall_mem_cons.2 ⟨has, all⟩)
      obtain ⟨before, name, after, rfl, known, unknown⟩ := ih later
      exact ⟨first :: before, name, after, rfl, List.forall_mem_cons.2 ⟨has, known⟩, unknown⟩
    · exact ⟨[], first, names, rfl, List.forall_mem_nil _, has⟩

end Scope

namespace Template

variable {scope : Scope} {t u : Template} {name : List Char} {offset : Nat} {r : Generated Fragment}

/-! ### The pieces of a text -/

/-- **A text is cut in one way.** -/
theorem eq_of_toChars_eq (ht : t.WellCut) (hu : u.WellCut) (same : t.toChars = u.toChars) : t = u := by
  rw [← ofChars_toChars ht, same, ofChars_toChars hu]

/-- The text of a template with paths in the places of its placeholders. -/
def fill (path : (name : List Char) → String) : Template → List Char
  | .literal text => text
  | .unterminated text _ => text
  | .placeholder text name rest => text ++ (path name).toList ++ fill path rest

/-- What stands before the placeholder that is never closed, if there is one. -/
def beforeUnterminated? : Template → Option (List Char)
  | .literal _ => none
  | .unterminated text _ => some text
  | .placeholder text name rest =>
    (beforeUnterminated? rest).map fun front => text ++ '#' :: '{' :: name ++ '}' :: front

theorem exists_tail_of_beforeUnterminated? {front : List Char}
    (opens : t.beforeUnterminated? = some front) : ∃ tail, t.toChars = front ++ opening ++ tail := by
  induction t generalizing front with
  | literal text => cases opens
  | unterminated text tail =>
    cases opens
    exact ⟨tail, by rw [toChars, opening, List.append_assoc, List.cons_append, List.singleton_append]⟩
  | placeholder text name rest ih =>
    obtain ⟨front, behind, rfl⟩ := Option.map_eq_some_iff.1 opens
    obtain ⟨tail, same⟩ := ih behind
    exact ⟨tail, by simp only [toChars, same, List.append_assoc, List.cons_append]⟩

/-! ### Bytes -/

theorem byteLength_append (s s' : List Char) :
    byteLength (s ++ s') = byteLength s + byteLength s' := by
  induction s with
  | nil => simp [byteLength]
  | cons c s ih =>
    rw [List.cons_append]
    simp only [byteLength, List.foldr_cons] at ih ⊢
    omega

theorem byteLength_eq_utf8ByteSize (s : List Char) : byteLength s = (String.ofList s).utf8ByteSize := by
  induction s with
  | nil => rfl
  | cons c s ih =>
    simp [byteLength, ← ih]

/-! ### Resolving -/

/-- The template comes out whole if each placeholder stands for an item. -/
theorem resolve_of_complete {item : List Char → RuntimeItem} (closed : t.beforeUnterminated? = none)
    (named : ∀ name ∈ t.names, scope.FirstEntry name (item name)) (offset : Nat) :
    t.resolve scope offset = .ok (t.fill fun name => (item name).fullPath,
      t.names.filterMap fun name => (item name).dependency) := by
  induction t generalizing offset with
  | literal text => rfl
  | unterminated text tail => cases closed
  | placeholder text name rest ih =>
    obtain ⟨first, named⟩ := List.forall_mem_cons.1 named
    have closed : rest.beforeUnterminated? = none := Option.map_eq_none_iff.1 closed
    rw [resolve, Scope.get?_eq_some_iff.2 first]
    simp only [ih closed named, bind, Except.bind, fill, names, List.filterMap_cons]
    cases (item name).dependency <;> rfl

/-- The first placeholder without an item is the error, whatever comes behind it. -/
theorem resolve_of_unresolved {before after : List (List Char)}
    (split : t.names = before ++ name :: after) (known : ∀ other ∈ before, scope.Has other)
    (unknown : ¬scope.Has name) (offset : Nat) :
    t.resolve scope offset = .error (.unresolvedPlaceholder (String.ofList name)) := by
  induction t generalizing before offset with
  | literal text => simp [names] at split
  | unterminated text tail => simp [names] at split
  | placeholder text first rest ih =>
    rw [resolve]
    cases before with
    | nil =>
      obtain ⟨rfl, -⟩ := List.cons.inj split
      rw [Scope.get?_eq_none_iff.2 unknown]
    | cons other before =>
      obtain ⟨rfl, behind⟩ := List.cons.inj split
      obtain ⟨has, known⟩ := List.forall_mem_cons.1 known
      obtain ⟨item, found⟩ := has.exists_get?
      rw [found]
      simp only [ih behind known, bind, Except.bind]

/-- A placeholder that is never closed is the error if the others stand for items, at the byte where it
is opened. -/
theorem resolve_of_unterminated {front : List Char} (known : ∀ name ∈ t.names, scope.Has name)
    (opens : t.beforeUnterminated? = some front) (offset : Nat) :
    t.resolve scope offset = .error (.unterminatedPlaceholder (offset + byteLength front)) := by
  induction t generalizing front offset with
  | literal text => cases opens
  | unterminated text tail =>
    cases opens
    rfl
  | placeholder text name rest ih =>
    obtain ⟨has, known⟩ := List.forall_mem_cons.1 known
    obtain ⟨item, found⟩ := has.exists_get?
    obtain ⟨front, behind, rfl⟩ := Option.map_eq_some_iff.1 opens
    have bytes : byteLength (text ++ '#' :: '{' :: name ++ '}' :: front) =
        byteLength text + byteLength name + 3 + byteLength front := by
      rw [byteLength_append, byteLength_append]
      show byteLength text + (1 + (1 + byteLength name)) + (1 + byteLength front) = _
      omega
    rw [resolve, found, bytes]
    simp only [ih known behind, bind, Except.bind, Nat.add_assoc]

/-! ### Rendering -/

/-- What rendering a template gives. -/
inductive Renders (scope : Scope) (t : Template) : Generated Fragment → Prop
  /-- Every placeholder is closed and stands for an item. -/
  | complete (item : List Char → RuntimeItem) (closed : t.beforeUnterminated? = none)
    (named : ∀ name ∈ t.names, scope.FirstEntry name (item name)) :
    Renders scope t (.ok ⟨String.ofList (t.fill fun name => (item name).fullPath),
      Dependency.merge (t.names.filterMap fun name => (item name).dependency)⟩)
  /-- This is the first placeholder that stands for nothing. -/
  | unresolved (before : List (List Char)) (name : List Char) (after : List (List Char))
    (split : t.names = before ++ name :: after) (known : ∀ other ∈ before, scope.Has other)
    (unknown : ¬scope.Has name) :
    Renders scope t (.error (.unresolvedPlaceholder (String.ofList name)))
  /-- Every placeholder that is closed stands for an item, but there is one behind them that is never
  closed. -/
  | unterminated (front tail : List Char) (known : ∀ name ∈ t.names, scope.Has name)
    (opens : t.beforeUnterminated? = some front) (text : t.toChars = front ++ opening ++ tail) :
    Renders scope t (.error (.unterminatedPlaceholder (String.ofList front).utf8ByteSize))

theorem Renders.render_eq (h : t.Renders scope r) : t.render scope = r := by
  cases h with
  | complete item closed named =>
    rw [render, resolve_of_complete closed named]
    rfl
  | unresolved before name after split known unknown =>
    rw [render, resolve_of_unresolved split known unknown]
    rfl
  | unterminated front tail known opens text =>
    rw [render, resolve_of_unterminated known opens, Nat.zero_add, byteLength_eq_utf8ByteSize]
    rfl

/-- One of the three cases is there. -/
theorem exists_renders (scope : Scope) (t : Template) : ∃ r, t.Renders scope r := by
  by_cases known : ∀ name ∈ t.names, scope.Has name
  · cases opens : t.beforeUnterminated? with
    | none =>
      refine ⟨_, .complete (fun name => (scope.get? (String.ofList name)).getD default) opens ?_⟩
      intro name mem
      obtain ⟨item, found⟩ := (known name mem).exists_get?
      rw [found, Option.getD_some]
      exact Scope.get?_eq_some_iff.1 found
    | some front =>
      obtain ⟨tail, text⟩ := exists_tail_of_beforeUnterminated? opens
      exact ⟨_, .unterminated front tail known opens text⟩
  · obtain ⟨before, name, after, split, known, unknown⟩ := Scope.exists_first_without_entry known
    exact ⟨_, .unresolved before name after split known unknown⟩

/-- **Rendering a template gives what its pieces say.** -/
theorem render_eq_iff : t.render scope = r ↔ t.Renders scope r := by
  constructor
  · rintro rfl
    obtain ⟨r, renders⟩ := exists_renders scope t
    rwa [renders.render_eq]
  · exact Renders.render_eq

end Template

/-- **Rendering accepts what its pieces allow, and the first fault decides the error.**  A text without
its indentation is cut in exactly one way.  Its code is its text with the paths of items in the places
of placeholders, and what is put in is not looked at again. -/
theorem renderTemplate_eq_iff_renders (scope : Scope) (source : String) :
    (∃! t : Template, t.WellCut ∧ t.toChars = Text.unindent source.toList) ∧
    ∀ r, renderTemplate scope source = r ↔
      ∃ t : Template, t.WellCut ∧ t.toChars = Text.unindent source.toList ∧ t.Renders scope r := by
  have cut := Template.wellCut_ofChars (Text.unindent source.toList)
  have text := Template.toChars_ofChars (Text.unindent source.toList)
  refine ⟨⟨_, ⟨cut, text⟩, ?_⟩, fun r => ?_⟩
  · rintro t ⟨ht, same⟩
    exact Template.eq_of_toChars_eq ht cut (same.trans text.symm)
  · constructor
    · intro rendered
      exact ⟨_, cut, text, Template.render_eq_iff.1 rendered⟩
    · rintro ⟨t, ht, same, renders⟩
      rw [Template.renderTemplate_of_pieces ht same.symm, renders.render_eq]

/-- The offset counts bytes: the letter in front takes two of them. -/
example (scope : Scope) :
    renderTemplate scope "\n  é #\x7bName\n" = .error (.unterminatedPlaceholder 3) := by
  rw [Template.renderTemplate_of_pieces (t := .unterminated "é ".toList "Name".toList) (by decide)
    (by decide)]
  rfl

/-! ### The crates of a text -/

/-- **A rendered template needs the crates that its placeholders name**, each once. -/
theorem exists_used_renderTemplate {scope : Scope} {text : String} {fragment : Fragment}
    (h : renderTemplate scope text = .ok fragment) :
    ∃ used, fragment.dependencies = Dependency.merge used ∧
      ∀ d, d ∈ used ↔ scope.NamesCrate (Text.unindent text.toList) d := by
  rw [renderTemplate, Template.render_eq_iff] at h
  cases h with
  | complete item closed named =>
    refine ⟨_, rfl, fun d => ?_⟩
    simp only [List.mem_filterMap, Scope.NamesCrate, Template.hasPlaceholder_iff]
    refine exists_congr fun name => and_congr_right fun mem => ?_
    rw [Scope.get?_eq_some_iff.2 (named name mem)]
    simp

end ServiceShapes
