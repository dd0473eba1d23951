import ServiceShapes.Text.Indent

/-!
# The lines of a text

A line holds no line feed (`Text.newline_not_mem_of_mem_lines`), and a text is blank exactly if all its
lines are (`Text.forall_isBlank_lines_iff`).  The lines are what stands between the line feeds, without
the carriage returns in front of these (`Text.exists_pieces_eq`).

`Text.shiftRight p s` puts `p` in front of every line of `s`.  For spaces and tabs the lines show this and
nothing else, except that a text which ends with a line feed gets one more line, of `p` alone
(`Text.exists_lines_shiftRight`).
-/

namespace ServiceShapes.Text

variable {c : Char} {p s l : List Char} {ls : List (List Char)}

/-! ### Lines and their characters -/

theorem newline_not_mem_of_mem_lines (h : l ∈ lines s) : '\n' ∉ l := by
  fun_induction lines s generalizing l with
  | case1 => cases h
  | case2 r ih =>
    rcases List.mem_cons.1 h with rfl | h
    · exact List.not_mem_nil
    · exact ih h
  | case3 r ih =>
    rcases List.mem_cons.1 h with rfl | h
    · exact List.not_mem_nil
    · exact ih h
  | case4 c r other _ none ih =>
    rw [List.mem_singleton.1 h, List.mem_singleton]
    exact fun same => other same.symm
  | case5 c r other _ line rest cut ih =>
    rw [cut] at ih
    rcases List.mem_cons.1 h with rfl | h
    · rw [List.mem_cons, not_or]
      exact ⟨fun same => other same.symm, ih List.mem_cons_self⟩
    · exact ih (List.mem_cons_of_mem line h)

theorem isBlank_cons_iff : isBlank (c :: s) = true ↔ isWhiteSpace c = true ∧ isBlank s = true := by
  rw [isBlank, List.all_cons, Bool.and_eq_true, ← isBlank]

/-- **A text is blank if all its lines are**, and only then. -/
theorem forall_isBlank_lines_iff : (∀ l ∈ lines s, isBlank l = true) ↔ isBlank s = true := by
  have newline : isWhiteSpace '\n' = true := by decide
  have carriageReturn : isWhiteSpace '\r' = true := by decide
  fun_induction lines s with
  | case1 => simp [isBlank]
  | case2 r ih => simpa [isBlank, newline] using ih
  | case3 r ih => simpa [isBlank, newline, carriageReturn] using ih
  | case4 c r _ _ none ih =>
    rw [none] at ih
    have blank : isBlank r = true := ih.1 (List.forall_mem_nil _)
    rw [List.forall_mem_singleton, isBlank_cons_iff, isBlank_cons_iff, blank]
    simp [isBlank]
  | case5 c r _ _ line rest cut ih =>
    rw [cut, List.forall_mem_cons] at ih
    rw [List.forall_mem_cons, isBlank_cons_iff, isBlank_cons_iff, and_assoc]
    exact and_congr_right fun _ => ih

theorem lines_eq_nil_iff : lines s = [] ↔ s = [] := by
  fun_cases lines s <;> simp_all

/-- A character that belongs to a line stands in front of what is behind it in the line. -/
theorem lines_cons (other : c ≠ '\n') (noEnd : c = '\r' → s.head? ≠ some '\n') :
    lines (c :: s) = (c :: (lines s).headD []) :: (lines s).tail := by
  rw [lines.eq_def]
  split
  · rename_i empty
    cases empty
  · rename_i same
    cases same
    exact absurd rfl other
  · rename_i same
    cases same
    exact absurd rfl (noEnd rfl)
  · rename_i same
    cases same
    cases lines s <;> rfl

/-! ### The text between line feeds -/

/-- A line without a carriage return at its end. -/
def withoutReturn (l : List Char) : List Char := if l.getLast? = some '\r' then l.dropLast else l

theorem withoutReturn_cons (noEnd : c = '\r' → l ≠ []) :
    withoutReturn (c :: l) = c :: withoutReturn l := by
  unfold withoutReturn
  cases l with
  | nil =>
    have other : c ≠ '\r' := fun same => noEnd same rfl
    simp [other]
  | cons d l =>
    rw [List.getLast?_cons_cons, List.dropLast_cons_cons]
    split <;> rfl

/-- What stands between the line feeds of a text, in front of the first one and behind the last.  A
carriage return in front of a line feed is left out. -/
def pieces (s : List Char) : List (List Char) :=
  (s.splitOn '\n').dropLast.map withoutReturn ++ (s.splitOn '\n').getLast?.toList

theorem pieces_newline (s : List Char) : pieces ('\n' :: s) = [] :: pieces s := by
  have cut : ('\n' :: s).splitOn '\n' = [] :: s.splitOn '\n' := List.splitOn_append_cons_self [] s
  obtain ⟨first, rest, parts⟩ := List.exists_cons_of_ne_nil (List.splitOn_ne_nil '\n' s)
  rw [pieces, pieces, cut, parts, List.dropLast_cons_cons, List.getLast?_cons_cons]
  rfl

theorem pieces_return_newline (s : List Char) : pieces ('\r' :: '\n' :: s) = [] :: pieces s := by
  have cut : ('\r' :: '\n' :: s).splitOn '\n' = ['\r'] :: s.splitOn '\n' :=
    List.splitOn_append_cons_self ['\r'] s
  obtain ⟨first, rest, parts⟩ := List.exists_cons_of_ne_nil (List.splitOn_ne_nil '\n' s)
  rw [pieces, pieces, cut, parts, List.dropLast_cons_cons, List.getLast?_cons_cons]
  rfl

theorem pieces_cons (other : c ≠ '\n') (noEnd : c = '\r' → s.head? ≠ some '\n') :
    pieces (c :: s) = (pieces s).modifyHead (c :: ·) := by
  have cut : (c :: s).splitOn '\n' = (s.splitOn '\n').modifyHead (c :: ·) := by
    rw [List.splitOn_cons_eq_if_modifyHead, if_neg (by simpa using other)]
  obtain ⟨first, rest, parts⟩ := List.exists_cons_of_ne_nil (List.splitOn_ne_nil '\n' s)
  rw [pieces, pieces, cut, parts]
  cases rest with
  | nil => rfl
  | cons second rest =>
    -- a line that ends right behind the carriage return begins with a line feed
    have filled : c = '\r' → first ≠ [] := by
      rintro same rfl
      refine noEnd same ?_
      have whole : ['\n'].intercalate (s.splitOn '\n') = s := List.intercalate_splitOn '\n'
      rw [← whole, parts, List.intercalate_cons_cons]
      rfl
    rw [List.modifyHead_cons, List.dropLast_cons_cons, List.dropLast_cons_cons, List.map_cons, List.map_cons,
      withoutReturn_cons filled, List.getLast?_cons_cons, List.getLast?_cons_cons]
    rfl

/-- **The lines of a text are its pieces**, but an empty one at the end is no line. -/
theorem exists_pieces_eq (s : List Char) :
    ∃ rest, pieces s = lines s ++ rest ∧ (rest = [] ∨ rest = [[]]) := by
  fun_induction lines s with
  | case1 => exact ⟨[[]], rfl, .inr rfl⟩
  | case2 r ih =>
    obtain ⟨rest, parts, empty⟩ := ih
    exact ⟨rest, by rw [pieces_newline, parts, List.cons_append], empty⟩
  | case3 r ih =>
    obtain ⟨rest, parts, empty⟩ := ih
    exact ⟨rest, by rw [pieces_return_newline, parts, List.cons_append], empty⟩
  | case4 c r other noEnd none ih =>
    obtain ⟨rest, parts, empty⟩ := ih
    rw [lines_eq_nil_iff] at none
    subst none
    refine ⟨[], ?_, .inl rfl⟩
    rw [pieces_cons other (by simp)]
    rfl
  | case5 c r other noEnd line later cut ih =>
    obtain ⟨rest, parts, empty⟩ := ih
    refine ⟨rest, ?_, empty⟩
    rw [pieces_cons other, parts, cut]
    · rfl
    · intro return' feed
      obtain ⟨r', rfl⟩ := List.head?_eq_some_iff.1 feed
      exact noEnd r' return' rfl

theorem filter_pieces (s : List Char) :
    (pieces s).filter (fun l => !isBlank l) = (lines s).filter fun l => !isBlank l := by
  obtain ⟨rest, parts, empty⟩ := exists_pieces_eq s
  rw [parts, List.filter_append]
  rcases empty with rfl | rfl <;> exact List.append_nil _

/-! ### Spaces and tabs -/

theorem isIndentation_iff : isIndentation c = true ↔ c = ' ' ∨ c = '\t' := by
  simp [isIndentation]

theorem isBlank_of_indentation (h : ∀ c ∈ p, isIndentation c = true) : isBlank p = true := by
  rw [isBlank, List.all_eq_true]
  intro c hc
  rcases isIndentation_iff.1 (h c hc) with rfl | rfl <;> decide

/-- Spaces and tabs in front of a line do not make it blank, and do not keep it from being blank. -/
theorem isBlank_append (h : ∀ c ∈ p, isIndentation c = true) (l : List Char) :
    isBlank (p ++ l) = isBlank l := by
  have blank := isBlank_of_indentation h
  rw [isBlank] at blank
  rw [isBlank, List.all_append, blank, Bool.true_and, ← isBlank]

/-- Spaces and tabs in front of a text belong to its first line. -/
theorem lines_append_of_indentation (h : ∀ c ∈ p, isIndentation c = true) (first : lines s = l :: ls) :
    lines (p ++ s) = (p ++ l) :: ls := by
  induction p with
  | nil => exact first
  | cons c p ih =>
    obtain ⟨here, h⟩ := List.forall_mem_cons.1 h
    have other : c ≠ '\n' ∧ c ≠ '\r' := by
      rcases isIndentation_iff.1 here with rfl | rfl <;> decide
    rw [List.cons_append, lines_cons other.1 fun same => absurd same other.2, ih h]
    rfl

/-! ### Moving text to the right -/

/-- The text with `p` behind every line feed. -/
def shiftLater (p s : List Char) : List Char := s.flatMap fun c => if c = '\n' then c :: p else [c]

/-- The text with `p` at its start and behind every line feed. -/
def shiftRight (p s : List Char) : List Char := p ++ shiftLater p s

theorem shiftLater_newline (p s : List Char) : shiftLater p ('\n' :: s) = '\n' :: shiftRight p s := by
  rw [shiftLater, List.flatMap_cons, if_pos rfl, List.cons_append, shiftRight, shiftLater]

theorem shiftLater_cons (other : c ≠ '\n') (p s : List Char) :
    shiftLater p (c :: s) = c :: shiftLater p s := by
  rw [shiftLater, List.flatMap_cons, if_neg other, List.singleton_append, shiftLater]

theorem head?_shiftLater (p s : List Char) : (shiftLater p s).head? = s.head? := by
  cases s with
  | nil => rfl
  | cons c s =>
    by_cases newline : c = '\n'
    · rw [newline, shiftLater_newline, List.head?_cons, List.head?_cons]
    · rw [shiftLater_cons newline, List.head?_cons, List.head?_cons]

/-- If later lines are moved as they should, all lines are. -/
theorem exists_lines_shiftRight_of (h : ∀ c ∈ p, isIndentation c = true)
    (later : ∀ l ls, lines s = l :: ls → ∃ rest, lines (shiftLater p s) = l :: (ls.map (p ++ ·) ++ rest) ∧
      ∀ l ∈ rest, isBlank l = true) :
    ∃ rest, lines (shiftRight p s) = (lines s).map (p ++ ·) ++ rest ∧ ∀ l ∈ rest, isBlank l = true := by
  cases cut : lines s with
  | nil =>
    rw [lines_eq_nil_iff] at cut
    subst cut
    refine ⟨lines p, ?_, forall_isBlank_lines_iff.2 (isBlank_of_indentation h)⟩
    rw [List.map_nil, List.nil_append, shiftRight, shiftLater, List.flatMap_nil, List.append_nil]
  | cons l ls =>
    obtain ⟨rest, moved, blank⟩ := later l ls cut
    refine ⟨rest, ?_, blank⟩
    rw [shiftRight, lines_append_of_indentation h moved, List.map_cons, List.cons_append]

/-- **The lines move to the right one by one**, and perhaps a blank one is added. -/
theorem exists_lines_shiftRight (h : ∀ c ∈ p, isIndentation c = true) (s : List Char) :
    ∃ rest, lines (shiftRight p s) = (lines s).map (p ++ ·) ++ rest ∧ ∀ l ∈ rest, isBlank l = true := by
  refine exists_lines_shiftRight_of h ?_
  fun_induction lines s with
  | case1 => exact fun l ls none => nomatch none
  | case2 r ih =>
    rintro l ls same
    obtain ⟨rfl, rfl⟩ := List.cons.inj same
    obtain ⟨rest, moved, blank⟩ := exists_lines_shiftRight_of h ih
    refine ⟨rest, ?_, blank⟩
    rw [shiftLater_newline, lines, moved]
  | case3 r ih =>
    rintro l ls same
    obtain ⟨rfl, rfl⟩ := List.cons.inj same
    obtain ⟨rest, moved, blank⟩ := exists_lines_shiftRight_of h ih
    refine ⟨rest, ?_, blank⟩
    rw [shiftLater_cons (by decide), shiftLater_newline, lines, moved]
  | case4 c r other _ none ih =>
    rintro l ls same
    obtain ⟨rfl, rfl⟩ := List.cons.inj same
    rw [lines_eq_nil_iff] at none
    subst none
    refine ⟨[], ?_, List.forall_mem_nil _⟩
    rw [shiftLater_cons other, lines_cons other (by simp [shiftLater])]
    rfl
  | case5 c r other noEnd line later cut ih =>
    rintro l ls same
    obtain ⟨rfl, rfl⟩ := List.cons.inj same
    obtain ⟨rest, moved, blank⟩ := ih line later cut
    refine ⟨rest, ?_, blank⟩
    rw [shiftLater_cons other, lines_cons other, moved]
    · rfl
    · rw [head?_shiftLater]
      intro return' feed
      obtain ⟨r', rfl⟩ := List.head?_eq_some_iff.1 feed
      exact noEnd r' return' rfl

end ServiceShapes.Text
