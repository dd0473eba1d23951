import ServiceShapes.Proofs.Templates.Cutting
import ServiceShapes.Proofs.Text.Margins

/-!
# Templates at any indentation

A template may be written at any indentation.  Moving all its lines to the right by the same spaces and
tabs changes nothing of what rendering gives, be it code or an error with its offset, since it changes
nothing of the text without its margin (`renderTemplate_shiftRight`).
-/

namespace ServiceShapes

open Text

/-- **A template means the same at any indentation.**  Its text without the margin is empty if it is
blank; otherwise it has the lines of the template between the blank ones at both ends, moved to the left
until one that is not blank can go no further. -/
theorem renderTemplate_shiftRight (scope : Scope) (text p : String)
    (indentation : ∀ c ∈ p.toList, c = ' ' ∨ c = '\t') :
    renderTemplate scope (String.ofList (shiftRight p.toList text.toList)) =
      renderTemplate scope text ∧
    (isBlank text.toList = true ∧ unindent text.toList = [] ∨
      isBlank text.toList = false ∧ ∃ before body after n,
        IsBody (lines text.toList) before body after ∧
          MovedLeft n body ((unindent text.toList).splitOn '\n')) := by
  constructor
  · have indentation : ∀ c ∈ p.toList, isIndentation c = true :=
      fun c hc => isIndentation_iff.2 (indentation c hc)
    rw [renderTemplate, renderTemplate, String.toList_ofList, unindent_shiftRight indentation]
  · cases blank : isBlank text.toList with
    | true => exact .inl ⟨rfl, unindent_of_isBlank blank⟩
    | false => exact .inr ⟨rfl, exists_movedLeft_unindent blank⟩

/-- A tab and a space are put in front of every line, the empty ones included. -/
theorem renderTemplate_shiftRight_signer :
    let scope : Scope := ⟨[("Signer", .noOpSigner {})]⟩
    let text := "\n  use #\x7bSigner\x7d;\n\n    end\r\n"
    (∀ c ∈ "\t ".toList, c = ' ' ∨ c = '\t') ∧
    renderTemplate scope (String.ofList (shiftRight "\t ".toList text.toList)) =
      .ok ⟨"use shapegen_runtime::frame::NoOpSigner;\n\n  end", [RuntimeCrate.dependency {}]⟩ ∧
    ∃ before body after n, IsBody (lines text.toList) before body after ∧
      MovedLeft n body ((unindent text.toList).splitOn '\n') := by
  intro scope text
  have tabs : ∀ c ∈ "\t ".toList, c = ' ' ∨ c = '\t' := by simp
  obtain ⟨same, left⟩ := renderTemplate_shiftRight scope text "\t " tabs
  refine ⟨tabs, ?_, ?_⟩
  · rw [same, Template.renderTemplate_of_pieces
      (t := .placeholder "use ".toList "Signer".toList (.literal ";\n\n  end".toList)) (by decide)
      (by decide)]
    rfl
  · rcases left with ⟨blank, -⟩ | ⟨-, moved⟩
    · exact absurd blank (by decide)
    · exact moved

end ServiceShapes
