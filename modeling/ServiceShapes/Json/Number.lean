import ServiceShapes.Json.Basic

/-!
# JSON numbers

`ofNumber?` reads the text of a number.  A number without fraction and exponent that fits into 64
bits is an integer; minus zero and everything else is a double.

A double is found in two steps: the leading digits that fit into an unsigned 64-bit word are taken
as a whole number and rounded to a double, then multiplied or divided by a power of ten, which is
rounded once more.  Digits that no longer fit only move the decimal point.  A number beyond every
double is `Json.broken`.
-/

namespace ServiceShapes.Json

/-- The parts of a number as written: the digits before and after the decimal point, and the
exponent with its sign. -/
structure NumberText where
  negative : Bool
  whole : List Char
  fraction : Option (List Char)
  exponent : Option (Bool × List Char)
deriving DecidableEq, Repr

/-- One or more digits. -/
def isDigits (s : List Char) : Bool := !s.isEmpty && s.all Char.isDigit

namespace NumberText

/-- Whether the parts may stand in a number: every part has digits, and the whole part has no
needless zero in front. -/
def valid (t : NumberText) : Bool :=
  isDigits t.whole && (t.whole == ['0'] || t.whole.head? != some '0') &&
    t.fraction.all isDigits && t.exponent.all fun (_, digits) => isDigits digits

/-- The exponent after `e`, with or without a sign. -/
def splitExponent : List Char → Bool × List Char
  | '+' :: rest => (false, rest)
  | '-' :: rest => (true, rest)
  | rest => (false, rest)

/-- Cuts the text of a number into its parts. -/
def ofChars (s : List Char) : NumberText :=
  let negative := s.head? == some '-'
  let s := if negative then s.drop 1 else s
  let isMark (c : Char) : Bool := c == 'e' || c == 'E'
  let mantissa := s.takeWhile fun c => !isMark c
  let exponent := match s.dropWhile fun c => !isMark c with
    | [] => none
    | _ :: rest => some (splitExponent rest)
  let whole := mantissa.takeWhile (· != '.')
  let fraction := match mantissa.dropWhile (· != '.') with
    | [] => none
    | _ :: rest => some rest
  ⟨negative, whole, fraction, exponent⟩

end NumberText

/-- The value of decimal digits. -/
def decimalNumber (digits : List Char) : Nat :=
  digits.foldl (fun n c => 10 * n + (c.toNat - 48)) 0

/-- Takes digits onto `n` as long as the result stays below `2 ^ 64`; also gives the digits left
over. -/
def takeWord : (n : Nat) → List Char → Nat × List Char
  | n, [] => (n, [])
  | n, c :: rest =>
    let next := 10 * n + (c.toNat - 48)
    if next < UInt64.size then takeWord next rest else (n, c :: rest)

/-- `x` divided by ten to the power `e`. -/
def scaleDown (x : Float) (e : Nat) : Float :=
  if e ≤ 308 then x / Float.ofScientific 1 false e
  else if x == 0 then x
  else scaleDown (x / Float.ofScientific 1 false 308) (e - 308)
termination_by e

/-- `n · 10 ^ e` as a double; `none` if it is beyond every double. -/
def scaled? (n : Nat) (e : Int) : Option Float :=
  let x := Float.ofNat n
  if e < 0 then some (scaleDown x e.natAbs)
  else if x == 0 then some x
  else if e ≤ 308 then
    let y := x * Float.ofScientific 1 false e.toNat
    if y.isInf then none else some y
  else none

/-- The double that a number stands for; `none` if it is beyond every double. -/
def doubleOf? (t : NumberText) : Option Double :=
  let (n, dropped) := takeWord 0 t.whole
  let (n, e) := match t.fraction with
    | none => (n, (dropped.length : Int))
    | some digits =>
      let (n', left) := takeWord n digits
      (n', (dropped.length : Int) - (digits.length - left.length : Nat))
  let magnitude := match t.exponent with
    | none => scaled? n e
    | some (negative, digits) =>
      let power := decimalNumber digits
      if power ≥ Nat.pow 2 31 then
        if n ≠ 0 ∧ ¬negative then none else some 0
      else scaled? n (if negative then e - power else e + power)
  magnitude.map fun x => .ofFloat (if t.negative then -x else x)

/-- The value of a number, given by its text; `none` if the text is no number. -/
def ofNumber? (s : List Char) : Option Json :=
  let t := NumberText.ofChars s
  if !t.valid then none
  else
    let n := decimalNumber t.whole
    if t.fraction.isNone ∧ t.exponent.isNone ∧ ¬t.negative ∧ n < UInt64.size then some (.integer n)
    else if t.fraction.isNone ∧ t.exponent.isNone ∧ t.negative ∧ 0 < n ∧ n ≤ Nat.pow 2 63 then
      some (.integer (-n))
    else some ((doubleOf? t).elim .broken .float)

end ServiceShapes.Json
