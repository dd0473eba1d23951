import Mathlib.Data.List.Forall2
import Mathlib.Data.List.TakeWhile
import ServiceShapes.Proofs.Text.Lines

/-!
# Removing the indentation of a text

`Text.unindent` keeps the lines between the blank ones at both ends, its body, and moves them to the left
by the margin.  The body is determined by what it is: the lines around it are blank, its first and last
ones are not (`Text.IsBody.trimBlankLines_eq`).  So is the margin: it is the indentation of some line that
is not blank, and no such line has less (`Text.margin_eq`).

Hence the result says nothing about how far the whole text stands to the right
(`Text.unindent_shiftRight`), and each of its lines is a line of the body without the margin
(`Text.exists_movedLeft_unindent`).
-/

namespace ServiceShapes.Text

variable {p s l : List Char} {ls before body after : List (List Char)} {n : Nat}

/-! ### The body of a text -/

/-- The lines `body` stand between blank lines and are not blank at their own ends. -/
structure IsBody (ls before body after : List (List Char)) : Prop where
  parts : ls = before ++ body ++ after
  before_blank : ∀ l ∈ before, isBlank l = true
  after_blank : ∀ l ∈ after, isBlank l = true
  first : ∀ l ∈ body.head?, isBlank l = false
  last : ∀ l ∈ body.getLast?, isBlank l = false

theorem dropWhile_isBlank_of_first (h : ∀ l ∈ ls.head?, isBlank l = false) :
    ls.dropWhile isBlank = ls := by
  cases ls with
  | nil => rfl
  | cons l ls =>
    have text : isBlank l = false := h l (by simp)
    rw [List.dropWhile_cons_of_neg (by simp [text])]

theorem first_dropWhile_isBlank (ls : List (List Char)) :
    ∀ l ∈ (ls.dropWhile isBlank).head?, isBlank l = false := by
  intro l hl
  have text := List.head?_dropWhile_not isBlank ls
  rw [Option.mem_def.1 hl] at text
  exact text

/-- **The body is determined by what is around it.** -/
theorem IsBody.trimBlankLines_eq (h : IsBody ls before body after) : trimBlankLines ls = body := by
  have front : (body ++ after).dropWhile isBlank = body ++ after ∨ body = [] := by
    cases body with
    | nil => exact .inr rfl
    | cons l body => exact .inl (dropWhile_isBlank_of_first h.first)
  rw [trimBlankLines, h.parts, List.append_assoc, List.dropWhile_append_of_pos h.before_blank]
  rcases front with front | rfl
  · have back : ∀ l ∈ after.reverse, isBlank l = true :=
      fun l hl => h.after_blank l (List.mem_reverse.1 hl)
    have last : ∀ l ∈ body.reverse.head?, isBlank l = false := by
      rw [List.head?_reverse]
      exact h.last
    rw [front, List.reverse_append, List.dropWhile_append_of_pos back,
      dropWhile_isBlank_of_first last, List.reverse_reverse]
  · rw [List.nil_append, List.dropWhile_eq_nil_iff.2 h.after_blank]
    rfl

theorem exists_isBody (ls : List (List Char)) :
    ∃ before after, IsBody ls before (trimBlankLines ls) after := by
  have front := List.takeWhile_append_dropWhile (p := isBlank) (l := ls)
  have back := List.takeWhile_append_dropWhile (p := isBlank) (l := (ls.dropWhile isBlank).reverse)
  have kept : trimBlankLines ls ++ ((ls.dropWhile isBlank).reverse.takeWhile isBlank).reverse =
      ls.dropWhile isBlank := by
    rw [trimBlankLines, ← List.reverse_append, back, List.reverse_reverse]
  refine ⟨ls.takeWhile isBlank, ((ls.dropWhile isBlank).reverse.takeWhile isBlank).reverse,
    ?_, ?_, ?_, ?_, ?_⟩
  · rw [List.append_assoc, kept, front]
  · exact fun l hl => List.mem_takeWhile_imp hl
  · exact fun l hl => List.mem_takeWhile_imp (List.mem_reverse.1 hl)
  · intro l hl
    refine first_dropWhile_isBlank ls l ?_
    rw [← kept, List.head?_append, Option.mem_def.1 hl, Option.some_or]
    rfl
  · rw [trimBlankLines, List.getLast?_reverse]
    exact first_dropWhile_isBlank _

/-! ### The margin -/

theorem margin_eq (mem : l ∈ ls) (text : isBlank l = false) (here : leadingIndent l = n)
    (least : ∀ l ∈ ls, isBlank l = false → n ≤ leadingIndent l) : margin ls = n := by
  have smallest : ((ls.filter fun l => !isBlank l).map leadingIndent).min? = some n := by
    rw [List.min?_eq_some_iff]
    simp only [List.mem_map, List.mem_filter, Bool.not_eq_true']
    refine ⟨⟨l, ⟨mem, text⟩, here⟩, ?_⟩
    rintro _ ⟨other, ⟨mem, text⟩, rfl⟩
    exact least other mem text
  rw [margin, smallest, Option.getD_some]

/-- **The margin is the indentation of some line**, and no line that is not blank has less. -/
theorem margin_spec (mem : l ∈ ls) (text : isBlank l = false) :
    (∃ l ∈ ls, isBlank l = false ∧ leadingIndent l = margin ls) ∧
    ∀ l ∈ ls, isBlank l = false → margin ls ≤ leadingIndent l := by
  have inside : leadingIndent l ∈ (ls.filter fun l => !isBlank l).map leadingIndent :=
    List.mem_map_of_mem (List.mem_filter.2 ⟨mem, by simp [text]⟩)
  obtain ⟨n, smallest⟩ := Option.isSome_iff_exists.1 (List.isSome_min?_of_mem inside)
  have found : margin ls = n := by rw [margin, smallest, Option.getD_some]
  rw [List.min?_eq_some_iff] at smallest
  simp only [List.mem_map, List.mem_filter, Bool.not_eq_true'] at smallest
  obtain ⟨⟨least, ⟨mem, text⟩, here⟩, others⟩ := smallest
  rw [found]
  exact ⟨⟨least, mem, text, here⟩, fun l mem text => others _ ⟨l, ⟨mem, text⟩, rfl⟩⟩

/-! ### Moving lines -/

theorem leadingIndent_append (h : ∀ c ∈ p, isIndentation c = true) (l : List Char) :
    leadingIndent (p ++ l) = p.length + leadingIndent l := by
  rw [leadingIndent, List.takeWhile_append_of_pos h, List.length_append, leadingIndent]

/-- Moving a line to the right and as much further to the left comes to the same. -/
theorem dropIndent_append (h : ∀ c ∈ p, isIndentation c = true) (n : Nat) (l : List Char) :
    dropIndent (p.length + n) (p ++ l) = dropIndent n l := by
  rw [dropIndent, leadingIndent_append h, Nat.add_min_add_left, List.drop_append,
    List.drop_eq_nil_of_le (Nat.le_add_right _ _), List.nil_append, Nat.add_sub_cancel_left,
    dropIndent]

theorem IsBody.map_append (h : IsBody ls before body after) (indentation : ∀ c ∈ p, isIndentation c = true)
    {rest : List (List Char)} (blank : ∀ l ∈ rest, isBlank l = true) :
    IsBody (ls.map (p ++ ·) ++ rest) (before.map (p ++ ·)) (body.map (p ++ ·))
      (after.map (p ++ ·) ++ rest) := by
  have same := isBlank_append indentation
  constructor
  · rw [h.parts, List.map_append, List.map_append, List.append_assoc]
  · simpa [same] using h.before_blank
  · intro l hl
    rcases List.mem_append.1 hl with hl | hl
    · obtain ⟨inner, mem, rfl⟩ := List.mem_map.1 hl
      rw [same]
      exact h.after_blank inner mem
    · exact blank l hl
  · simpa [same] using h.first
  · simpa [same] using h.last

theorem margin_map_append (indentation : ∀ c ∈ p, isIndentation c = true) (mem : l ∈ ls)
    (text : isBlank l = false) : margin (ls.map (p ++ ·)) = p.length + margin ls := by
  obtain ⟨⟨least, mem, text, here⟩, others⟩ := margin_spec mem text
  apply margin_eq (List.mem_map_of_mem mem)
  · rwa [isBlank_append indentation]
  · rw [leadingIndent_append indentation, here]
  · intro l hl text
    obtain ⟨inner, mem, rfl⟩ := List.mem_map.1 hl
    rw [isBlank_append indentation] at text
    rw [leadingIndent_append indentation]
    exact Nat.add_le_add_left (others inner mem text) _

/-- **How far a text stands to the right does not matter.** -/
theorem unindent_shiftRight (indentation : ∀ c ∈ p, isIndentation c = true) (s : List Char) :
    unindent (shiftRight p s) = unindent s := by
  obtain ⟨rest, moved, blank⟩ := exists_lines_shiftRight indentation s
  obtain ⟨before, after, body⟩ := exists_isBody (lines s)
  have body' := body.map_append indentation blank
  rw [unindent, unindent, moved, body'.trimBlankLines_eq]
  cases kept : trimBlankLines (lines s) with
  | nil => rfl
  | cons l ls =>
    have text : isBlank l = false := body.first l (by rw [kept]; rfl)
    rw [margin_map_append indentation List.mem_cons_self text, List.map_map]
    congr 1
    apply List.map_congr_left
    intro l _
    exact dropIndent_append indentation _ l

/-! ### What is left of each line -/

/-- The line loses the `n` spaces and tabs at its start and nothing else; a blank line that starts with
fewer of them loses these. -/
def LosesIndent (n : Nat) (l l' : List Char) : Prop :=
  ∃ gone, l = gone ++ l' ∧ (∀ c ∈ gone, isIndentation c = true) ∧
    (gone.length = n ∨
      isBlank l = true ∧ gone.length < n ∧ ∀ c ∈ l'.head?, isIndentation c = false)

/-- The lines `ls'` are the lines `ls` moved to the left as far as they go. -/
structure MovedLeft (n : Nat) (ls ls' : List (List Char)) : Prop where
  loses : List.Forall₂ (LosesIndent n) ls ls'
  /-- The first and the last line are not blank. -/
  first : ∀ l ∈ ls'.head?, isBlank l = false
  last : ∀ l ∈ ls'.getLast?, isBlank l = false
  /-- Some line that is not blank starts with something else than a space or a tab. -/
  furthest : ∃ l ∈ ls', isBlank l = false ∧ ∀ c ∈ l.head?, isIndentation c = false

/-- What is left of a line without all its leading spaces and tabs starts with neither. -/
theorem first_dropIndent (here : leadingIndent l ≤ n) :
    ∀ c ∈ (dropIndent n l).head?, isIndentation c = false := by
  have rest : dropIndent n l = l.dropWhile isIndentation := by
    have parts := List.takeWhile_append_dropWhile (p := isIndentation) (l := l)
    rw [dropIndent, Nat.min_eq_right here, leadingIndent]
    nth_rewrite 2 [← parts]
    rw [List.drop_left]
  intro c hc
  have text := List.head?_dropWhile_not isIndentation l
  rw [rest] at hc
  rw [Option.mem_def.1 hc] at text
  exact text

/-- A line consists of the spaces and tabs that are dropped and what is left. -/
theorem exists_dropIndent (n : Nat) (l : List Char) : ∃ gone, l = gone ++ dropIndent n l ∧
    (∀ c ∈ gone, isIndentation c = true) ∧ gone.length = min n (leadingIndent l) := by
  have parts := List.takeWhile_append_dropWhile (p := isIndentation) (l := l)
  have short : min n (leadingIndent l) ≤ (l.takeWhile isIndentation).length := Nat.min_le_right _ _
  refine ⟨(l.takeWhile isIndentation).take (min n (leadingIndent l)), ?_, ?_, ?_⟩
  · have same : l.take (min n (leadingIndent l)) =
        (l.takeWhile isIndentation).take (min n (leadingIndent l)) := by
      nth_rewrite 2 [← parts]
      rw [List.take_append_of_le_length short]
    rw [← same, dropIndent, List.take_append_drop]
  · exact fun c hc => List.mem_takeWhile_imp (List.mem_of_mem_take hc)
  · rw [List.length_take, Nat.min_eq_left short]

theorem losesIndent_dropIndent (enough : isBlank l = false → n ≤ leadingIndent l) :
    LosesIndent n l (dropIndent n l) := by
  obtain ⟨gone, parts, indentation, length⟩ := exists_dropIndent n l
  refine ⟨gone, parts, indentation, ?_⟩
  rcases Nat.lt_or_ge (leadingIndent l) n with less | enough'
  · have blank : isBlank l = true := by
      by_contra text
      exact Nat.not_le_of_lt less (enough (by simpa using text))
    exact .inr ⟨blank, by omega, first_dropIndent (Nat.le_of_lt less)⟩
  · exact .inl (by omega)

theorem isBlank_dropIndent (n : Nat) (l : List Char) : isBlank (dropIndent n l) = isBlank l := by
  obtain ⟨gone, parts, indentation, -⟩ := exists_dropIndent n l
  nth_rewrite 2 [parts]
  rw [isBlank_append indentation]

theorem newline_not_mem_dropIndent (h : '\n' ∉ l) (n : Nat) : '\n' ∉ dropIndent n l := fun mem =>
  h (List.mem_of_mem_drop mem)

/-- A text that is not blank has a body. -/
theorem IsBody.exists_mem (h : IsBody (lines s) before body after) (text : isBlank s = false) :
    ∃ l ∈ body, isBlank l = false := by
  cases body with
  | nil =>
    have blank : ∀ l ∈ lines s, isBlank l = true := by
      intro l hl
      rw [h.parts, List.append_nil] at hl
      exact (List.mem_append.1 hl).elim (h.before_blank l) (h.after_blank l)
    rw [forall_isBlank_lines_iff, text] at blank
    cases blank
  | cons l body => exact ⟨l, List.mem_cons_self, h.first l rfl⟩

theorem splitOn_unindent (h : IsBody (lines s) before body after) (some : body ≠ []) :
    (unindent s).splitOn '\n' = body.map (dropIndent (margin body)) := by
  have oneLine : ∀ l ∈ body.map (dropIndent (margin body)), '\n' ∉ l := by
    intro l hl
    obtain ⟨inner, mem, rfl⟩ := List.mem_map.1 hl
    apply newline_not_mem_dropIndent
    apply newline_not_mem_of_mem_lines (s := s)
    rw [h.parts]
    exact List.mem_append_left after (List.mem_append_right before mem)
  rw [unindent, h.trimBlankLines_eq]
  exact List.splitOn_intercalate '\n' oneLine (by simpa using some)

/-- **The result has the lines of the body, moved to the left as far as they go.** -/
theorem exists_movedLeft_unindent (text : isBlank s = false) : ∃ before body after n,
    IsBody (lines s) before body after ∧ MovedLeft n body ((unindent s).splitOn '\n') := by
  obtain ⟨before, after, h⟩ := exists_isBody (lines s)
  obtain ⟨l, mem, text⟩ := h.exists_mem text
  obtain ⟨⟨least, inside, starts, here⟩, others⟩ := margin_spec mem text
  refine ⟨before, _, after, margin (trimBlankLines (lines s)), h, ?_⟩
  rw [splitOn_unindent h (List.ne_nil_of_mem mem)]
  constructor
  · rw [List.forall₂_map_right_iff, List.forall₂_same]
    exact fun l mem => losesIndent_dropIndent (others l mem)
  · simpa [isBlank_dropIndent] using h.first
  · simpa [isBlank_dropIndent] using h.last
  · refine ⟨_, List.mem_map_of_mem inside, ?_, first_dropIndent (Nat.le_of_eq here)⟩
    rwa [isBlank_dropIndent]

/-- A blank text leaves nothing. -/
theorem unindent_of_isBlank (blank : isBlank s = true) : unindent s = [] := by
  have body : IsBody (lines s) (lines s) [] [] := by
    refine ⟨by simp, forall_isBlank_lines_iff.2 blank, ?_, ?_, ?_⟩ <;> simp
  rw [unindent, body.trimBlankLines_eq]
  rfl

end ServiceShapes.Text
