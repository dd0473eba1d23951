import ServiceShapes.Text.UpperCase
import Mathlib.Data.List.Basic

/-!
# Upper case is upper case already

No letter that the table sends elsewhere occurs in an upper-case form of the table
(`disjoint_caseForms_casedLetters`).  So each character of an upper-case form is its own upper-case form
(`upperCase_of_mem_upperCase`).

The table has some 1500 letters, too many to compare each with each.  `bitSet` turns a list of numbers into
the bits of one number; what two lists have in common is then a single operation
(`disjoint_of_bitSet`).
-/

namespace ServiceShapes.Text

variable {c d : Char} {n : Nat} {run : CaseRun}

/-! ### Lists of numbers as bits -/

/-- The number whose bits are set at the places in `ns`. -/
def bitSet (ns : List Nat) : Nat := ns.foldr (fun n bits => 1 <<< n ||| bits) 0

theorem testBit_bitSet (ns : List Nat) (n : Nat) : (bitSet ns).testBit n = decide (n ∈ ns) := by
  induction ns with
  | nil => exact Nat.zero_testBit n
  | cons m ns ih =>
    have first : (1 <<< m).testBit n = decide (n = m) := by
      rw [Nat.one_shiftLeft, Nat.testBit_two_pow]
      exact decide_eq_decide.2 eq_comm
    rw [bitSet, List.foldr_cons, ← bitSet, Nat.testBit_or, first, ih, ← Bool.decide_or]
    exact decide_eq_decide.2 List.mem_cons.symm

theorem disjoint_of_bitSet {ns ms : List Nat} (h : bitSet ns &&& bitSet ms = 0) : ns.Disjoint ms := by
  intro n left right
  have both : (bitSet ns &&& bitSet ms).testBit n = true := by
    rw [Nat.testBit_and, testBit_bitSet, testBit_bitSet, decide_eq_true left, decide_eq_true right]
    rfl
  rw [h, Nat.zero_testBit] at both
  cases both

/-! ### The letters of the table and their forms -/

/-- The letters of a run. -/
def CaseRun.letters (run : CaseRun) : List Nat :=
  (List.range' run.first (run.last + 1 - run.first)).filter run.contains

theorem CaseRun.mem_letters (h : run.contains n = true) : n ∈ run.letters := by
  refine List.mem_filter.2 ⟨List.mem_range'_1.2 ?_, h⟩
  rw [contains, Bool.and_eq_true, Bool.and_eq_true, decide_eq_true_iff, decide_eq_true_iff] at h
  omega

/-- The letters that the table sends elsewhere. -/
def casedLetters : List Nat := caseExpansions.map (·.1) ++ caseRuns.flatMap CaseRun.letters

/-- Where the table sends letters to. -/
def caseForms : List Nat :=
  caseExpansions.flatMap (·.2) ++ caseRuns.flatMap fun run => run.letters.map run.apply

theorem isValidChar_of_mem_caseForms : ∀ n ∈ caseForms, n.isValidChar := by
  decide +kernel

theorem disjoint_caseForms_casedLetters : caseForms.Disjoint casedLetters :=
  disjoint_of_bitSet (by decide +kernel)

/-! ### Upper-case forms -/

theorem upperCase_of_not_mem (h : c.toNat ∉ casedLetters) : upperCase c = [c] := by
  rw [casedLetters, List.mem_append, not_or] at h
  have expands : caseExpansions.lookup c.toNat = none := by
    refine List.lookup_eq_none_iff.2 fun entry mem => bne_iff_ne.2 fun same => h.1 ?_
    rw [same]
    exact List.mem_map_of_mem mem
  have runs : caseRuns.find? (·.contains c.toNat) = none := by
    refine List.find?_eq_none.2 fun run mem inside => h.2 ?_
    exact List.mem_flatMap.2 ⟨run, mem, CaseRun.mem_letters inside⟩
  rw [upperCase, expands, runs]

/-- An upper-case form is the character itself or comes from the table. -/
theorem upperCase_eq_or (c : Char) :
    upperCase c = [c] ∨ ∃ form ≠ [], form ⊆ caseForms ∧ upperCase c = form.map Char.ofNat := by
  have filled : ∀ entry ∈ caseExpansions, entry.2 ≠ [] := by decide
  unfold upperCase
  split
  · rename_i form found
    have mem : (c.toNat, form) ∈ caseExpansions := by
      obtain ⟨before, behind, parts, -⟩ := List.lookup_eq_some_iff.1 found
      rw [parts]
      exact List.mem_append_right _ List.mem_cons_self
    refine .inr ⟨form, filled _ mem, fun n part => List.mem_append_left _ ?_, rfl⟩
    exact List.mem_flatMap.2 ⟨_, mem, part⟩
  · split
    · rename_i run found
      have inside := List.find?_some found
      have letter : c.toNat ∈ run.letters := CaseRun.mem_letters inside
      refine .inr ⟨[run.apply c.toNat], List.cons_ne_nil _ _, ?_, rfl⟩
      refine List.cons_subset.2 ⟨List.mem_append_right _ ?_, List.nil_subset _⟩
      exact List.mem_flatMap.2 ⟨run, List.mem_of_find?_eq_some found, List.mem_map_of_mem letter⟩
    · exact .inl rfl

theorem upperCase_ne_nil (c : Char) : upperCase c ≠ [] := by
  rcases upperCase_eq_or c with same | ⟨form, filled, -, table⟩
  · rw [same]
    exact List.cons_ne_nil _ _
  · rw [table]
    exact mt List.map_eq_nil_iff.1 filled

theorem mem_upperCase (h : d ∈ upperCase c) : d = c ∧ upperCase c = [c] ∨ d.toNat ∈ caseForms := by
  rcases upperCase_eq_or c with same | ⟨form, -, known, table⟩
  · rw [same] at h
    exact .inl ⟨List.mem_singleton.1 h, same⟩
  · rw [table] at h
    obtain ⟨n, part, rfl⟩ := List.mem_map.1 h
    have valid : n.isValidChar := isValidChar_of_mem_caseForms n (known part)
    have code : (Char.ofNat n).toNat = n := by
      rw [Char.ofNat, dif_pos valid]
      rfl
    rw [code]
    exact .inr (known part)

/-- **What an upper-case form is made of is upper case already.** -/
theorem upperCase_of_mem_upperCase (h : d ∈ upperCase c) : upperCase d = [d] := by
  rcases mem_upperCase h with ⟨rfl, same⟩ | form
  · exact same
  · exact upperCase_of_not_mem (disjoint_caseForms_casedLetters form)

end ServiceShapes.Text
