/-!
# Double-precision numbers

A `Double` is a double-precision number by its bits.  A finite one is `m · 2 ^ e` with
`m = significand` and `e = exponent`; `Double.ofDecimal` gives the one nearest to a decimal.
-/

namespace ServiceShapes

/-- A double-precision floating point number, by its bits. -/
structure Double where
  bits : UInt64
deriving DecidableEq, Repr, Inhabited

namespace Double

/-- The double of a machine number. -/
def ofFloat (x : Float) : Double := ⟨x.toBits⟩

/-- Positive infinity. -/
def infinity : Double := ⟨0x7FF0000000000000⟩

/-- A value that is not a number. -/
def notANumber : Double := ⟨0x7FF8000000000000⟩

/-- The double nearest to `n · 10 ^ e`.  Exponents that lead far beyond the range of doubles are
settled by the position of the first digit alone. -/
def ofDecimal (n : Nat) (e : Int) : Double :=
  let firstDigit := ((Nat.toDigits 10 n).length : Int) + e
  if n = 0 ∨ firstDigit < -400 then ofFloat 0
  else if firstDigit > 400 then infinity
  else ofFloat (Float.ofScientific n (decide (e < 0)) e.natAbs)

/-- The number with the opposite sign. -/
def negate (x : Double) : Double := ⟨x.bits ^^^ 0x8000000000000000⟩

/-- Whether the sign bit is set. -/
def isNegative (x : Double) : Bool := x.bits.toNat ≥ Nat.pow 2 63

/-- The eleven bits of the exponent. -/
def exponentBits (x : Double) : Nat := x.bits.toNat / Nat.pow 2 52 % Nat.pow 2 11

/-- The fifty-two bits of the fraction. -/
def fractionBits (x : Double) : Nat := x.bits.toNat % Nat.pow 2 52

/-- The number `m` of a finite value `m · 2 ^ e`. -/
def significand (x : Double) : Nat :=
  if x.exponentBits = 0 then x.fractionBits else Nat.pow 2 52 + x.fractionBits

/-- The number `e` of a finite value `m · 2 ^ e`. -/
def exponent (x : Double) : Int := (max x.exponentBits 1 : Int) - 1075

/-- Whether the number is infinite. -/
def isInfinite (x : Double) : Bool := x.exponentBits == 2047 && x.fractionBits == 0

/-- Whether the number is not a number. -/
def isNotANumber (x : Double) : Bool := x.exponentBits == 2047 && x.fractionBits != 0

end Double

end ServiceShapes
