import ServiceShapes.Generation.ServiceConfig
import ServiceShapes.Proofs.Text.Lines

/-!
# The lines of spliced fragments

Indenting a text puts each of its lines on a line of its own again, blank ones as empty lines
(`Text.splitOn_indent`).  In a section every fragment ends its last line, so no line of one runs into a
line of the next (`splitOn_splice_cons`), and nothing but empty lines is added (`splice_keeps_lines`).
-/

namespace ServiceShapes

namespace Text

variable {l s : List Char}

/-! ### Indented lines -/

theorem isBlank_indentLine (n : Nat) (l : List Char) : isBlank (indentLine n l) = isBlank l := by
  have spaces : ∀ c ∈ List.replicate n ' ', isIndentation c = true := by
    intro c hc
    rw [List.eq_of_mem_replicate hc]
    rfl
  unfold indentLine
  split
  · rename_i blank
    rw [blank]
    rfl
  · exact isBlank_append spaces l

theorem newline_not_mem_indentLine (n : Nat) (h : '\n' ∉ l) : '\n' ∉ indentLine n l := by
  unfold indentLine
  split
  · exact List.not_mem_nil
  · rw [List.mem_append, not_or]
    exact ⟨fun mem => absurd (List.eq_of_mem_replicate mem) (by decide), h⟩

/-- **An indented text has the indented lines of the text**; if there are none, it is one empty line. -/
theorem splitOn_indent (n : Nat) (s : List Char) :
    (indent n s).splitOn '\n' = if s = [] then [[]] else (lines s).map (indentLine n) := by
  split
  · rename_i empty
    rw [empty]
    rfl
  · rename_i some
    have oneLine : ∀ l ∈ (lines s).map (indentLine n), '\n' ∉ l := by
      intro l hl
      obtain ⟨line, mem, rfl⟩ := List.mem_map.1 hl
      exact newline_not_mem_indentLine n (newline_not_mem_of_mem_lines mem)
    refine List.splitOn_intercalate '\n' oneLine ?_
    rwa [Ne, List.map_eq_nil_iff, lines_eq_nil_iff]

theorem filter_splitOn_indent (n : Nat) (s : List Char) :
    ((indent n s).splitOn '\n').filter (fun l => !isBlank l) =
      ((lines s).filter fun l => !isBlank l).map (List.replicate n ' ' ++ ·) := by
  rw [splitOn_indent]
  split
  · rename_i empty
    rw [empty]
    rfl
  · rw [List.filter_map]
    -- the same lines are blank before and after, and the others get their spaces
    have same : (fun l => !isBlank l) ∘ indentLine n = fun l => !isBlank l :=
      funext fun l => congrArg not (isBlank_indentLine n l)
    rw [same]
    refine List.map_congr_left fun l hl => ?_
    have text := (List.mem_filter.1 hl).2
    rw [Bool.not_eq_true'] at text
    rw [indentLine, text, if_neg Bool.false_ne_true]

theorem eq_nil_of_mem_splitOn_indent {n : Nat} (h : l ∈ (indent n s).splitOn '\n')
    (blank : isBlank l = true) : l = [] := by
  rw [splitOn_indent] at h
  split at h
  · exact List.mem_singleton.1 h
  · obtain ⟨line, -, rfl⟩ := List.mem_map.1 h
    rw [isBlank_indentLine] at blank
    rw [indentLine, if_pos blank]

end Text

/-! ### Fragments one after another -/

/-- **Each fragment has its own lines**, in front of those of the fragments behind it. -/
theorem splitOn_splice_cons (spaces : Nat) (items : Bool) (part : List Char)
    (parts : List (List Char)) :
    (splice spaces items (part :: parts)).splitOn '\n' =
      (if items then [[]] else []) ++ (Text.indent spaces part).splitOn '\n' ++
        (splice spaces items parts).splitOn '\n' := by
  rw [splice, List.flatMap_cons, ← splice]
  cases items with
  | true =>
    show ([] ++ '\n' :: (Text.indent spaces part ++ ['\n'] ++ splice spaces true parts)).splitOn '\n' = _
    rw [List.splitOn_append_cons_self, List.append_assoc, List.singleton_append,
      List.splitOn_append_cons_self]
    rfl
  | false =>
    show (Text.indent spaces part ++ ['\n'] ++ splice spaces false parts).splitOn '\n' = _
    rw [List.append_assoc, List.singleton_append, List.splitOn_append_cons_self]
    rfl

theorem filter_splitOn_splice (spaces : Nat) (items : Bool) (parts : List (List Char)) :
    ((splice spaces items parts).splitOn '\n').filter (fun l => !Text.isBlank l) =
      ((parts.flatMap Text.pieces).filter fun l => !Text.isBlank l).map
        (List.replicate spaces ' ' ++ ·) := by
  induction parts with
  | nil => rfl
  | cons part parts ih =>
    have between : (if items then [[]] else []).filter (fun l => !Text.isBlank l) = [] := by
      cases items <;> rfl
    rw [splitOn_splice_cons, List.filter_append, List.filter_append, between,
      Text.filter_splitOn_indent, ih, List.flatMap_cons, List.filter_append, List.map_append,
      Text.filter_pieces, List.nil_append]

theorem eq_nil_of_mem_splitOn_splice {spaces : Nat} {items : Bool} {parts : List (List Char)}
    {l : List Char} (h : l ∈ (splice spaces items parts).splitOn '\n')
    (blank : Text.isBlank l = true) : l = [] := by
  induction parts with
  | nil => exact List.mem_singleton.1 h
  | cons part parts ih =>
    rw [splitOn_splice_cons, List.mem_append, List.mem_append] at h
    rcases h with (between | own) | later
    · cases items with
      | true => exact List.mem_singleton.1 between
      | false => cases between
    · exact Text.eq_nil_of_mem_splitOn_indent own blank
    · exact ih later

theorem splice_eq_nil_or_ends (spaces : Nat) (items : Bool) (parts : List (List Char)) :
    splice spaces items parts = [] ∨ (splice spaces items parts).getLast? = some '\n' := by
  rcases List.eq_nil_or_concat parts with rfl | ⟨front, last, rfl⟩
  · exact .inl rfl
  · refine .inr ?_
    rw [splice, List.concat_eq_append, List.flatMap_append, List.flatMap_singleton, ← List.append_assoc,
      List.getLast?_concat]

/-- **Splicing keeps every line of every fragment.**  The lines that are not blank are those of the
fragments, in order and as far to the right as is asked for; all others are empty, and the last line is
ended if there is any. -/
theorem splice_keeps_lines (spaces : Nat) (items : Bool) (parts : List (List Char)) :
    ((splice spaces items parts).splitOn '\n').filter (fun l => !Text.isBlank l) =
        ((parts.flatMap Text.pieces).filter fun l => !Text.isBlank l).map
          (List.replicate spaces ' ' ++ ·) ∧
      (∀ l ∈ (splice spaces items parts).splitOn '\n', Text.isBlank l = true → l = []) ∧
      (splice spaces items parts = [] ∨ (splice spaces items parts).getLast? = some '\n') :=
  ⟨filter_splitOn_splice spaces items parts, fun _ => eq_nil_of_mem_splitOn_splice,
    splice_eq_nil_or_ends spaces items parts⟩

end ServiceShapes
