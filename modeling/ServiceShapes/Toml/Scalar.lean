import ServiceShapes.Text.Reader
import ServiceShapes.Toml.Basic

/-!
# TOML numbers, dates and truth values

Every value that is not a string, an array or a table is one word: a run of letters, digits and the
characters `+`, `-`, `_`, `.` and `:`.  `scalar?` gives the value of a word.

* Whole numbers are decimal with an optional sign, or hexadecimal, octal or binary without one, and
  fit into 64 bits.
* Other numbers have a fraction, an exponent or both; `inf` and `nan` stand for themselves.
* Digits may be grouped by single underscores, each between two digits.
* A date, a time, or a date and a time joined by `T`; a date and a time may have an offset.

`scalarReader` reads a word from the front of a text.  A date and a time may also be two words, with
a single space between them.
-/

namespace ServiceShapes.Toml

/-! ### Digits -/

/-- The value of decimal digits. -/
def ofDigits (base : Nat) (value : Char → Nat) (digits : List Char) : Nat :=
  digits.foldl (fun n c => base * n + value c) 0

/-- The value of a digit in any base up to sixteen, in either case. -/
def digitValue (c : Char) : Nat :=
  if c.isDigit then c.toNat - 48 else c.toLower.toNat - 87

/-- The digits of a number whose digits may be grouped by single underscores. -/
def groupedDigits? (isDigit : Char → Bool) : List Char → Option (List Char)
  | [] => none
  | [c] => if isDigit c then some [c] else none
  | c :: '_' :: rest => if isDigit c then (groupedDigits? isDigit rest).map (c :: ·) else none
  | c :: rest => if isDigit c then (groupedDigits? isDigit rest).map (c :: ·) else none

/-- The digits of a decimal whole number: no zero stands in front of other digits. -/
def wholeDigits? (s : List Char) : Option (List Char) := do
  let digits ← groupedDigits? Char.isDigit s
  if digits.head? = some '0' ∧ digits ≠ ['0'] then none else some digits

/-- Cuts off a sign; the first part says whether it is a minus. -/
def splitSign : List Char → Bool × List Char
  | '+' :: rest => (false, rest)
  | '-' :: rest => (true, rest)
  | rest => (false, rest)

/-! ### Numbers -/

/-- An integer that fits into 64 bits. -/
def integer? (n : Int) : Option Toml :=
  if Int64.minValue.toInt ≤ n ∧ n ≤ Int64.maxValue.toInt then some (.integer n) else none

/-- Whether a character is a digit in a base. -/
def isDigitIn (base : Nat) (c : Char) : Bool :=
  (c.isDigit || 'a' ≤ c.toLower && c.toLower ≤ 'f') && digitValue c < base

/-- A whole number in a base other than ten, given by its digits. -/
def radixInteger? (base : Nat) (s : List Char) : Option Toml := do
  let digits ← groupedDigits? (isDigitIn base) s
  integer? (ofDigits base digitValue digits)

/-- A floating point number.  A number too large for a double is refused, unless it is negative: it
is minus infinity then. -/
def float? (negative : Bool) (magnitude : Double) : Option Toml :=
  if negative then some (.float magnitude.negate)
  else if magnitude = .infinity then none
  else some (.float magnitude)

/-- A decimal number without its sign. -/
def decimal? (negative : Bool) (s : List Char) : Option Toml := do
  let isMark (c : Char) : Bool := c == 'e' || c == 'E'
  let mantissa := s.takeWhile (!isMark ·)
  let exponentPart := s.dropWhile (!isMark ·)
  let whole ← wholeDigits? (mantissa.takeWhile (· != '.'))
  let fractionPart := mantissa.dropWhile (· != '.')
  if fractionPart.isEmpty && exponentPart.isEmpty then
    let n : Int := ofDigits 10 digitValue whole
    integer? (if negative then -n else n)
  else
    let fraction ←
      if fractionPart.isEmpty then some [] else groupedDigits? Char.isDigit fractionPart.tail
    let exponent : Int ←
      if exponentPart.isEmpty then some 0 else do
        let (negative, digits) := splitSign exponentPart.tail
        let n : Int := ofDigits 10 digitValue (← groupedDigits? Char.isDigit digits)
        some (if negative then -n else n)
    float? negative
      (.ofDecimal (ofDigits 10 digitValue (whole ++ fraction)) (exponent - fraction.length))

/-- A number. -/
def number? (s : List Char) : Option Toml :=
  match s with
  | '0' :: 'x' :: digits => radixInteger? 16 digits
  | '0' :: 'o' :: digits => radixInteger? 8 digits
  | '0' :: 'b' :: digits => radixInteger? 2 digits
  | _ =>
    let (negative, body) := splitSign s
    if body = ['i', 'n', 'f'] then
      some (.float (if negative then Double.infinity.negate else .infinity))
    else if body = ['n', 'a', 'n'] then some (.float .notANumber)
    else decimal? negative body

/-! ### Dates and times -/

/-- The number that two decimal digits give. -/
def twoDigits? (a b : Char) : Option Nat :=
  if a.isDigit && b.isDigit then some (ofDigits 10 digitValue [a, b]) else none

/-- Whether February has 29 days. -/
def isLeapYear (year : Nat) : Bool := year % 4 == 0 && (year % 100 != 0 || year % 400 == 0)

/-- The number of days of a month; none if there is no such month. -/
def daysInMonth (year month : Nat) : Nat :=
  match month with
  | 1 | 3 | 5 | 7 | 8 | 10 | 12 => 31
  | 4 | 6 | 9 | 11 => 30
  | 2 => if isLeapYear year then 29 else 28
  | _ => 0

/-- Whether the text is a date. -/
def isDate : List Char → Bool
  | [y₁, y₂, y₃, y₄, '-', m₁, m₂, '-', d₁, d₂] =>
    match twoDigits? y₁ y₂, twoDigits? y₃ y₄, twoDigits? m₁ m₂, twoDigits? d₁ d₂ with
    | some century, some year, some month, some day =>
      1 ≤ day && day ≤ daysInMonth (100 * century + year) month
    | _, _, _, _ => false
  | _ => false

/-- Whether two digits give a number up to a limit. -/
def isUpTo (limit : Nat) (a b : Char) : Bool := (twoDigits? a b).any (· ≤ limit)

/-- Whether the text is an offset from universal time. -/
def isOffset : List Char → Bool
  | ['Z'] | ['z'] => true
  | [sign, h₁, h₂, ':', m₁, m₂] =>
    (sign == '+' || sign == '-') && isUpTo 23 h₁ h₂ && isUpTo 59 m₁ m₂
  | _ => false

/-- The text after a time, if the text starts with one; the last minute may have 61 seconds. -/
def skipTime? : List Char → Option (List Char)
  | h₁ :: h₂ :: ':' :: m₁ :: m₂ :: ':' :: s₁ :: s₂ :: rest =>
    if isUpTo 23 h₁ h₂ && isUpTo 59 m₁ m₂ && isUpTo 60 s₁ s₂ then
      match rest with
      | '.' :: c :: r => if c.isDigit then some (r.dropWhile Char.isDigit) else none
      | _ => some rest
    else none
  | _ => none

/-- Whether the text is a time. -/
def isTime (s : List Char) : Bool := skipTime? s == some []

/-- Whether the text is a time that may have an offset. -/
def isTimeWithOffset (s : List Char) : Bool := (skipTime? s).any fun r => r.isEmpty || isOffset r

/-- How many characters a date has. -/
def dateLength : Nat := 10

/-- Whether the text is a date, a time, or a date and a time. -/
def isMoment (s : List Char) : Bool :=
  isDate s || isTime s ||
    isDate (s.take dateLength) && match s.drop dateLength with
      | mark :: time => (mark == 'T' || mark == 't') && isTimeWithOffset time
      | [] => false

/-! ### Words -/

/-- The characters of words. -/
def isWordChar (c : Char) : Bool :=
  c.isAlphanum || c == '+' || c == '-' || c == '_' || c == '.' || c == ':'

/-- The value of a word. -/
def scalar? (word : List Char) : Option Toml :=
  if word = ['t', 'r', 'u', 'e'] then some (.boolean true)
  else if word = ['f', 'a', 'l', 's', 'e'] then some (.boolean false)
  else if isMoment word then some (.datetime (String.ofList word))
  else number? word

/-- The word at the front of a text and the text after it.  Behind a date, a space and a word that
starts with a digit are taken for a time. -/
def takeWord (s : List Char) : List Char × List Char :=
  let word := s.takeWhile isWordChar
  match s.dropWhile isWordChar with
  | ' ' :: c :: rest =>
    if isDate word && c.isDigit then
      (word ++ 'T' :: (c :: rest).takeWhile isWordChar, (c :: rest).dropWhile isWordChar)
    else (word, ' ' :: c :: rest)
  | rest => (word, rest)

/-- Reads a value that is one word. -/
def readScalar? (s : List Char) : Option (Toml × List Char) :=
  (scalar? (takeWord s).1).map (·, (takeWord s).2)

/-- No value is written without any character. -/
theorem scalar?_nil : scalar? [] = none := by decide

/-- What follows a word that is not empty is shorter. -/
theorem length_lt_of_takeWord {s : List Char} (h : (takeWord s).1 ≠ []) :
    (takeWord s).2.length < s.length := by
  have hs := congrArg List.length (List.takeWhile_append_dropWhile (p := isWordChar) (l := s))
  rw [List.length_append] at hs
  have hword : (s.takeWhile isWordChar) ≠ [] → 0 < (s.takeWhile isWordChar).length :=
    List.length_pos_iff.2
  unfold takeWord at h ⊢
  dsimp only at h ⊢
  split
  · rename_i c rest hd
    rw [hd] at hs
    have hr := (List.dropWhile_sublist (l := c :: rest) isWordChar).length_le
    simp only [List.length_cons] at hs hr
    split
    · dsimp only
      omega
    · rename_i hdate
      rw [hd] at h
      simp only [hdate] at h
      have := hword h
      simp only [List.length_cons]
      omega
  · rename_i hd
    split at h
    · exact absurd ‹_› (hd _ _)
    · have := hword h
      dsimp only
      omega

theorem length_lt_of_readScalar? {s r : List Char} {value : Toml}
    (h : readScalar? s = some (value, r)) : r.length < s.length := by
  obtain ⟨_, h₁, h₂⟩ := Option.map_eq_some_iff.1 h
  cases h₂
  refine length_lt_of_takeWord fun hnil => ?_
  rw [hnil, scalar?_nil] at h₁
  cases h₁

/-- The reader of values that are one word. -/
def scalarReader : Reader Toml := ⟨readScalar?, length_lt_of_readScalar?⟩

end ServiceShapes.Toml
