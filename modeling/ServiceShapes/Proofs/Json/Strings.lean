import ServiceShapes.Json.Quoted

/-!
# Reading back a quoted text

What `quote` puts between the quotation marks is resolved to the text again
(`exists_units_of_quoted`).  The escapes come in three forms, which `quoteChar_eq` tells apart: a
backslash and a letter, a backslash and a code for the control characters that have no letter, and
no escape at all.  Whatever is proved about quoted text is proved form by form.
-/

namespace ServiceShapes.Json

/-! ### Hexadecimal digits -/

theorem hexNumber?_control {n : Nat} (h : n < 0x20) :
    hexNumber? ['0', '0', hexDigit (n / 16), hexDigit (n % 16)] = some n := by
  have each : ∀ n < 0x20, hexNumber? ['0', '0', hexDigit (n / 16), hexDigit (n % 16)] = some n := by
    decide
  exact each n h

/-- A hexadecimal digit ends no string and starts no escape. -/
theorem hexDigit_ne {n : Nat} (h : n < 16) : hexDigit n ≠ '"' ∧ hexDigit n ≠ '\\' := by
  have each : ∀ n < 16, hexDigit n ≠ '"' ∧ hexDigit n ≠ '\\' := by decide
  exact each n h

/-! ### The forms of a character -/

/-- **A character is written as a letter escape, as a code, or as itself.** -/
theorem quoteChar_eq (c : Char) :
    (∃ e, e ≠ 'u' ∧ escaped? e = some c ∧ quoteChar c = ['\\', e]) ∨
    (c.toNat < 0x20 ∧
      quoteChar c = ['\\', 'u', '0', '0', hexDigit (c.toNat / 16), hexDigit (c.toNat % 16)]) ∨
    (0x20 ≤ c.toNat ∧ c ≠ '"' ∧ c ≠ '\\' ∧ quoteChar c = [c]) := by
  unfold quoteChar
  split
  · exact .inl ⟨'"', by decide, rfl, rfl⟩
  · exact .inl ⟨'\\', by decide, rfl, rfl⟩
  · exact .inl ⟨'n', by decide, rfl, rfl⟩
  · exact .inl ⟨'r', by decide, rfl, rfl⟩
  · exact .inl ⟨'t', by decide, rfl, rfl⟩
  · exact .inl ⟨'b', by decide, rfl, rfl⟩
  · exact .inl ⟨'f', by decide, rfl, rfl⟩
  · rename_i notQuote notBackslash _ _ _ _ _
    refine .inr ?_
    by_cases control : c.toNat < 0x20
    · exact .inl ⟨control, if_pos control⟩
    · exact .inr ⟨by omega, notQuote, notBackslash, if_neg control⟩

/-! ### Resolving the escapes -/

/-- A control code is a character of its own, whatever follows it. -/
theorem ofUnits?_code {n : Nat} (h : n < 0x20) (us : List TextUnit) :
    ofUnits? (.code n :: us) = (ofUnits? us).map (Char.ofNat n :: ·) := by
  have notHigh : isHighHalf n = false := by simp [isHighHalf]; omega
  have notLow : isLowHalf n = false := by simp [isLowHalf]; omega
  cases us with
  | nil => simp [ofUnits?, notHigh, notLow]
  | cons u us => cases u <;> simp [ofUnits?, notHigh, notLow]

theorem units?_letter {e c : Char} (notCode : e ≠ 'u') (means : escaped? e = some c)
    (rest : List Char) : units? ('\\' :: e :: rest) = (units? rest).map (.char c :: ·) := by
  rw [units?.eq_3 e rest fun _ _ _ _ _ code _ => notCode code, means]
  rfl

theorem units?_plain {c : Char} (visible : 0x20 ≤ c.toNat) (notBackslash : c ≠ '\\')
    (rest : List Char) : units? (c :: rest) = (units? rest).map (.char c :: ·) := by
  rw [units?.eq_4 c rest (fun _ _ _ _ _ backslash _ => notBackslash backslash)
    (fun _ _ backslash _ => notBackslash backslash), if_neg]
  rintro (control | backslash)
  · omega
  · exact notBackslash backslash

/-- **One quoted character gives one unit, and that unit is the character.** -/
theorem exists_unit_of_quoteChar (c : Char) : ∃ u,
    (∀ rest, units? (quoteChar c ++ rest) = (units? rest).map (u :: ·)) ∧
    (∀ us, ofUnits? (u :: us) = (ofUnits? us).map (c :: ·)) := by
  rcases quoteChar_eq c with ⟨e, notCode, means, form⟩ | ⟨control, form⟩ |
    ⟨visible, -, notBackslash, form⟩
  · refine ⟨.char c, fun rest => ?_, fun us => rfl⟩
    rw [form]
    exact units?_letter notCode means rest
  · refine ⟨.code c.toNat, fun rest => ?_, fun us => ?_⟩
    · rw [form]
      simp [units?, hexNumber?_control control]
    · rw [ofUnits?_code control, Char.ofNat_toNat]
  · refine ⟨.char c, fun rest => ?_, fun us => rfl⟩
    rw [form]
    exact units?_plain visible notBackslash rest

/-- **The text between the quotation marks stands for the quoted text.** -/
theorem exists_units_of_quoted (s : List Char) :
    ∃ us, units? (s.flatMap quoteChar) = some us ∧ ofUnits? us = some s := by
  induction s with
  | nil => exact ⟨[], rfl, rfl⟩
  | cons c s ih =>
    obtain ⟨us, read, means⟩ := ih
    obtain ⟨u, first, isChar⟩ := exists_unit_of_quoteChar c
    refine ⟨u :: us, ?_, ?_⟩
    · rw [List.flatMap_cons, first, read, Option.map_some]
    · rw [isChar, means, Option.map_some]

end ServiceShapes.Json
