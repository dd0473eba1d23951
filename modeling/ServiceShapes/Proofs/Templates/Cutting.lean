import Mathlib.Data.List.Infix
import ServiceShapes.Generation.Template

/-!
# Cutting text into templates

`Template.ofChars` undoes `Template.toChars` on every template whose pieces can be told apart: a
text before a placeholder must not open one itself, and a name must not hold the character that
closes it (`Template.WellCut`, `Template.ofChars_toChars`).  Every text is cut into such pieces, and
nothing of it is lost (`Template.wellCut_ofChars`, `Template.toChars_ofChars`).
-/

namespace ServiceShapes

namespace Template

variable {c : Char} {s text name tail : List Char} {t : Template}

/-- The two characters that open a placeholder. -/
def opening : List Char := ['#', '{']

/-- The pieces of a template can be told apart. -/
def WellCut : Template → Prop
  | .literal text => ¬opening <:+: text
  | .unterminated text tail => ¬opening <:+: text ∧ '}' ∉ tail
  | .placeholder text name rest => ¬opening <:+: text ∧ '}' ∉ name ∧ rest.WellCut

/-- Whether the pieces of a template can be told apart. -/
def decideWellCut : (t : Template) → Decidable t.WellCut
  | .literal text => inferInstanceAs (Decidable (¬opening <:+: text))
  | .unterminated text tail => inferInstanceAs (Decidable (¬opening <:+: text ∧ '}' ∉ tail))
  | .placeholder text name rest =>
    have := decideWellCut rest
    inferInstanceAs (Decidable (¬opening <:+: text ∧ '}' ∉ name ∧ rest.WellCut))

instance : DecidablePred WellCut := decideWellCut

/-- The template with more text at the start of its first text. -/
def prependText (s : List Char) : Template → Template
  | .literal text => .literal (s ++ text)
  | .unterminated text tail => .unterminated (s ++ text) tail
  | .placeholder text name rest => .placeholder (s ++ text) name rest

theorem prependText_nil (t : Template) : t.prependText [] = t := by
  cases t <;> rfl

theorem prependText_cons (c : Char) (s : List Char) (t : Template) :
    t.prependText (c :: s) = (t.prependText s).prepend c := by
  cases t <;> rfl

/-- A character that opens no placeholder belongs to the first text. -/
theorem ofChars_cons (h : ¬opening <+: c :: s) : ofChars (c :: s) = (ofChars s).prepend c := by
  rw [ofChars.eq_def]
  split
  · rename_i empty
    cases empty
  · rename_i r opens
    rw [opens] at h
    exact absurd ⟨r, rfl⟩ h
  · rename_i c' r _ same
    cases same
    rfl

/-- A text that opens no placeholder belongs to the first text, whatever comes behind it; what comes
behind must not close a placeholder that the text has half opened. -/
theorem ofChars_append (plain : ¬opening <:+: text) (behind : s.head? ≠ some '{') :
    ofChars (text ++ s) = (ofChars s).prependText text := by
  induction text with
  | nil => rw [List.nil_append, prependText_nil]
  | cons c text ih =>
    have rest : ¬opening <:+: text := fun h => plain (List.infix_cons h)
    have first : ¬opening <+: c :: (text ++ s) := by
      intro opens
      cases text with
      | nil =>
        -- the second character of the opening would come from behind
        obtain ⟨r, same⟩ := opens
        have second : '{' :: r = s := (List.cons.inj same).2
        exact behind (by rw [← second, List.head?_cons])
      | cons d text =>
        refine plain (List.IsPrefix.isInfix ?_)
        simpa [opening] using opens
    rw [List.cons_append, ofChars_cons first, ih rest, prependText_cons]

theorem ofChars_unterminated (h : '}' ∉ tail) :
    ofChars ('#' :: '{' :: tail) = .unterminated [] tail := by
  rw [ofChars]
  split
  · rfl
  · rename_i found
    rw [Text.splitFirst_eq_none_iff.2 h] at found
    cases found

theorem ofChars_placeholder (h : '}' ∉ name) :
    ofChars ('#' :: '{' :: name ++ '}' :: s) = .placeholder [] name (ofChars s) := by
  have cut : Text.splitFirst '}' (name ++ '}' :: s) = some (name, s) :=
    Text.splitFirst_eq_some_iff.2 ⟨rfl, h⟩
  rw [List.cons_append, List.cons_append, ofChars]
  split
  · rename_i none
    rw [cut] at none
    cases none
  · rename_i found
    rw [cut] at found
    cases found
    rfl

/-- A text up to its first placeholder is cut there. -/
theorem ofChars_first (plain : ¬opening <:+: text) (closed : '}' ∉ name) :
    ofChars (text ++ '#' :: '{' :: name ++ '}' :: s) = .placeholder text name (ofChars s) := by
  rw [List.append_assoc, ofChars_append plain (by simp), ofChars_placeholder closed, prependText,
    List.append_nil]

/-- **Cutting undoes putting together.** -/
theorem ofChars_toChars (h : t.WellCut) : ofChars t.toChars = t := by
  induction t with
  | literal text =>
    rw [toChars, ← List.append_nil text, ofChars_append h (by simp), ofChars, prependText]
  | unterminated text tail =>
    obtain ⟨plain, closed⟩ := h
    rw [toChars, ofChars_append plain (by simp), ofChars_unterminated closed, prependText,
      List.append_nil]
  | placeholder text name rest ih =>
    obtain ⟨plain, closed, rest⟩ := h
    rw [toChars, ofChars_first plain closed, ih rest]

/-! ### Putting together again -/

theorem toChars_prepend (c : Char) (t : Template) : (t.prepend c).toChars = c :: t.toChars := by
  cases t <;> rfl

/-- **Putting together undoes cutting.** -/
theorem toChars_ofChars (s : List Char) : (ofChars s).toChars = s := by
  fun_induction ofChars s with
  | case1 => rfl
  | case2 r => rfl
  | case3 r name rest cut ih =>
    rw [toChars, ih, (Text.splitFirst_eq_some_iff.1 cut).1]
    rfl
  | case4 c r _ ih => rw [toChars_prepend, ih]

/-- A character in front of a text opens a placeholder only together with what is behind it. -/
theorem not_infix_cons (plain : ¬opening <:+: text) (first : ¬opening <+: c :: (text ++ s)) :
    ¬opening <:+: c :: text := by
  intro inside
  rcases List.infix_cons_iff.1 inside with opens | inside
  · exact first (opens.trans (List.prefix_append (c :: text) s))
  · exact plain inside

theorem WellCut.prepend (h : t.WellCut) (first : ¬opening <+: c :: t.toChars) :
    (t.prepend c).WellCut := by
  cases t with
  | literal text => exact not_infix_cons (s := []) h (by rwa [List.append_nil])
  | unterminated text tail => exact ⟨not_infix_cons h.1 first, h.2⟩
  | placeholder text name rest =>
    rw [toChars, List.append_assoc] at first
    exact ⟨not_infix_cons h.1 first, h.2⟩

/-- **Cutting leaves pieces that can be told apart.** -/
theorem wellCut_ofChars (s : List Char) : (ofChars s).WellCut := by
  have empty : ¬opening <:+: [] := by decide
  fun_induction ofChars s with
  | case1 => exact empty
  | case2 r uncut => exact ⟨empty, Text.splitFirst_eq_none_iff.1 uncut⟩
  | case3 r name rest cut ih => exact ⟨empty, (Text.splitFirst_eq_some_iff.1 cut).2, ih⟩
  | case4 c r opens ih =>
    refine ih.prepend ?_
    rw [toChars_ofChars]
    rintro ⟨behind, same⟩
    obtain ⟨rfl, rfl⟩ := List.cons.inj same
    exact opens behind rfl rfl

/-- Rendering a text whose pieces are known. -/
theorem renderTemplate_of_pieces {scope : Scope} {source : String} (h : t.WellCut)
    (pieces : Text.unindent source.toList = t.toChars) :
    renderTemplate scope source = t.render scope := by
  rw [renderTemplate, pieces, ofChars_toChars h]

/-! ### Resolving the pieces -/

end Template

end ServiceShapes
