import ServiceShapes.Text.PascalCase
import ServiceShapes.Proofs.Text.UpperCase

/-!
# Names in Pascal case

Words are put together one by one (`pascalCase_append_cons`, `pascalCase_of_word`).  The result is one word
that begins with its own upper-case form (`isPascal_pascalCase`), and just the texts of this form stay as they
are (`pascalCase_eq_self_iff`); converting twice is converting once.
-/

namespace ServiceShapes.Text

variable {c d : Char} {a b s w : List Char}

/-! ### Separators -/

theorem isWordSeparator_iff : isWordSeparator c = true ↔ c = '_' ∨ c = '-' := by
  rw [isWordSeparator, Bool.or_eq_true, beq_iff_eq, beq_iff_eq]

theorem forall_isWordSeparator_iff : (∀ c ∈ s, isWordSeparator c = false) ↔ '_' ∉ s ∧ '-' ∉ s := by
  constructor
  · exact fun h => ⟨fun mem => absurd (h _ mem) (by decide), fun mem => absurd (h _ mem) (by decide)⟩
  · rintro ⟨underscore, hyphen⟩ c mem
    refine Bool.eq_false_iff.2 fun separates => ?_
    rcases isWordSeparator_iff.1 separates with rfl | rfl
    · exact underscore mem
    · exact hyphen mem

theorem toNat_not_mem_caseForms (separates : isWordSeparator c = true) : c.toNat ∉ caseForms := by
  have apart : caseForms.Disjoint ['_'.toNat, '-'.toNat] := disjoint_of_bitSet (by decide +kernel)
  intro form
  refine apart form ?_
  rcases isWordSeparator_iff.1 separates with rfl | rfl
  · exact List.mem_cons_self
  · exact List.mem_cons_of_mem _ List.mem_cons_self

theorem not_isWordSeparator_of_mem_upperCase (h : d ∈ upperCase c) (part : isWordSeparator c = false) :
    isWordSeparator d = false := by
  rcases mem_upperCase h with ⟨rfl, -⟩ | form
  · exact part
  · exact Bool.eq_false_iff.2 fun separates => toNat_not_mem_caseForms separates form

/-! ### Words -/

/-- Both sides of a separator are converted alone. -/
theorem pascalCase_append_cons (separates : isWordSeparator c = true) (a b : List Char) :
    pascalCase (a ++ c :: b) = pascalCase a ++ pascalCase b := by
  unfold pascalCase
  rw [splitAll_eq_splitOnP, splitAll_eq_splitOnP, splitAll_eq_splitOnP,
    List.splitOnP_append_cons a b separates, List.flatMap_append]

theorem pascalCase_of_word (word : ∀ c ∈ w, isWordSeparator c = false) : pascalCase w = capitalize w := by
  rw [pascalCase, splitAll_eq_splitOnP, List.splitOnP_eq_singleton word, List.flatMap_singleton]

/-! ### What is in Pascal case -/

/-- Nothing, or one word whose first character is upper case already. -/
structure IsPascal (s : List Char) : Prop where
  oneWord : ∀ c ∈ s, isWordSeparator c = false
  upperFirst : ∀ c ∈ s.head?, upperCase c = [c]

theorem isPascal_nil : IsPascal [] := ⟨List.forall_mem_nil _, fun _ none => nomatch none⟩

theorem IsPascal.append (left : IsPascal a) (right : IsPascal b) : IsPascal (a ++ b) := by
  refine ⟨List.forall_mem_append.2 ⟨left.oneWord, right.oneWord⟩, ?_⟩
  cases a with
  | nil => exact right.upperFirst
  | cons c a => exact left.upperFirst

theorem isPascal_capitalize (word : ∀ c ∈ w, isWordSeparator c = false) : IsPascal (capitalize w) := by
  cases w with
  | nil => exact isPascal_nil
  | cons c r =>
    obtain ⟨part, word⟩ := List.forall_mem_cons.1 word
    obtain ⟨first, form, upper⟩ := List.exists_cons_of_ne_nil (upperCase_ne_nil c)
    -- of a longer upper-case form, too, the first character is what a second conversion meets
    have fixed : upperCase first = [first] := by
      refine upperCase_of_mem_upperCase (c := c) ?_
      rw [upper]
      exact List.mem_cons_self
    refine ⟨List.forall_mem_append.2 ⟨fun d mem => ?_, word⟩, ?_⟩
    · exact not_isWordSeparator_of_mem_upperCase mem part
    · rw [capitalize, upper, List.cons_append, List.head?_cons]
      rintro d ⟨⟩
      exact fixed

theorem isPascal_pascalCase (s : List Char) : IsPascal (pascalCase s) := by
  have words : ∀ w ∈ splitAll isWordSeparator s, ∀ c ∈ w, isWordSeparator c = false :=
    fun w => eq_false_of_mem_splitAll
  unfold pascalCase
  generalize splitAll isWordSeparator s = ws at words ⊢
  induction ws with
  | nil => exact isPascal_nil
  | cons w ws ih =>
    obtain ⟨word, words⟩ := List.forall_mem_cons.1 words
    rw [List.flatMap_cons]
    exact (isPascal_capitalize word).append (ih words)

theorem IsPascal.pascalCase_eq (h : IsPascal s) : pascalCase s = s := by
  rw [pascalCase_of_word h.oneWord]
  cases s with
  | nil => rfl
  | cons c r => rw [capitalize, h.upperFirst c rfl, List.singleton_append]

theorem pascalCase_eq_self_iff : pascalCase s = s ↔ IsPascal s :=
  ⟨fun same => same ▸ isPascal_pascalCase s, IsPascal.pascalCase_eq⟩

/-- **Words are converted one by one and once and for all.**  A separator only says where the next word
begins and is gone afterwards, a word gets its first character in upper case, and a second conversion finds
nothing to do. -/
theorem pascalCase_wordwise_idempotent :
    (∀ a b, pascalCase (a ++ '_' :: b) = pascalCase a ++ pascalCase b ∧
      pascalCase (a ++ '-' :: b) = pascalCase a ++ pascalCase b) ∧
    (∀ w, '_' ∉ w → '-' ∉ w → pascalCase w = capitalize w) ∧
    ∀ s, '_' ∉ pascalCase s ∧ '-' ∉ pascalCase s ∧ pascalCase (pascalCase s) = pascalCase s := by
  refine ⟨fun a b => ⟨?_, ?_⟩, fun w underscore hyphen => ?_, fun s => ?_⟩
  · exact pascalCase_append_cons rfl a b
  · exact pascalCase_append_cons rfl a b
  · exact pascalCase_of_word (forall_isWordSeparator_iff.2 ⟨underscore, hyphen⟩)
  · have pascal := isPascal_pascalCase s
    obtain ⟨underscore, hyphen⟩ := forall_isWordSeparator_iff.1 pascal.oneWord
    exact ⟨underscore, hyphen, pascal.pascalCase_eq⟩

/-- A first character that becomes two. -/
theorem pascalCase_wordwise_sharpS :
    ('_' ∉ "ßeta".toList ∧ '-' ∉ "ßeta".toList) ∧
      pascalCase ("ßeta".toList ++ '-' :: "ßeta".toList) = "SSetaSSeta".toList ∧
      pascalCase "SSetaSSeta".toList = "SSetaSSeta".toList := by
  have plain : '_' ∉ "ßeta".toList ∧ '-' ∉ "ßeta".toList := by decide
  obtain ⟨join, word, again⟩ := pascalCase_wordwise_idempotent
  have capital : pascalCase "ßeta".toList = "SSeta".toList :=
    (word _ plain.1 plain.2).trans (by decide)
  have whole : pascalCase ("ßeta".toList ++ '-' :: "ßeta".toList) = "SSetaSSeta".toList := by
    rw [(join _ _).2, capital]
    decide
  refine ⟨plain, whole, ?_⟩
  rw [← whole]
  exact (again _).2.2

end ServiceShapes.Text
