import ServiceShapes.Proofs.Templates.Cutting

/-!
# The placeholders of a text

Read from left to right, a placeholder starts at the first `#{` and ends at the next `}`, and the
next one is looked for behind it (`HasPlaceholder`).  These are the placeholders that cutting
finds (`Template.hasPlaceholder_iff`).
-/

namespace ServiceShapes

namespace Template

variable {s name : List Char} {t : Template}

/-- The text has a placeholder of this name. -/
inductive HasPlaceholder (name : List Char) : (s : List Char) → Prop
  /-- It is the first one. -/
  | here {text rest : List Char} (plain : ¬opening <:+: text) (closed : '}' ∉ name) :
    HasPlaceholder name (text ++ '#' :: '{' :: name ++ '}' :: rest)
  /-- It comes behind the first one. -/
  | behind {text other rest : List Char} (plain : ¬opening <:+: text) (closed : '}' ∉ other)
    (later : HasPlaceholder name rest) :
    HasPlaceholder name (text ++ '#' :: '{' :: other ++ '}' :: rest)

/-- The names of the placeholders, from left to right. -/
def names : Template → List (List Char)
  | .literal _ => []
  | .unterminated _ _ => []
  | .placeholder _ name rest => name :: names rest

theorem WellCut.hasPlaceholder (h : t.WellCut) (mem : name ∈ t.names) :
    HasPlaceholder name t.toChars := by
  induction t with
  | literal text => cases mem
  | unterminated text tail => cases mem
  | placeholder text other rest ih =>
    obtain ⟨plain, closed, wellCut⟩ := h
    rcases List.mem_cons.1 mem with rfl | mem
    · exact .here plain closed
    · exact .behind plain closed (ih wellCut mem)

/-- **The placeholders of a text are those that cutting finds.** -/
theorem hasPlaceholder_iff : HasPlaceholder name s ↔ name ∈ (ofChars s).names := by
  constructor
  · intro h
    induction h with
    | here plain closed =>
      rw [ofChars_first plain closed]
      exact List.mem_cons_self
    | behind plain closed _ ih =>
      rw [ofChars_first plain closed]
      exact List.mem_cons_of_mem _ ih
  · intro mem
    have found := (wellCut_ofChars s).hasPlaceholder mem
    rwa [toChars_ofChars] at found

end Template

open Template

/-- Some placeholder of the text stands for an item of the scope that needs the crate, with these
features. -/
def Scope.NamesCrate (scope : Scope) (s : List Char) (d : Dependency) : Prop :=
  ∃ name, HasPlaceholder name s ∧
    ∃ item, scope.get? (String.ofList name) = some item ∧ item.dependency = some d

end ServiceShapes
