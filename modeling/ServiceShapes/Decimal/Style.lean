import ServiceShapes.Decimal.Shortest

/-!
# How numbers are written

A number can be written positionally, with all its places, or scientifically, with a power of ten.
A `DecimalStyle` holds what a format decides: for which sizes it writes numbers positionally and
which of two equally near decimals it takes.  `Double.toText` writes a number in such a style,
always with the fewest digits that read back as the same number.
-/

namespace ServiceShapes

/-- How a format writes numbers. -/
structure DecimalStyle where
  tie : Tie
  /-- Whether a number is written positionally whose first digit stands for `10 ^ power`. -/
  isPositional : (power : Int) → Bool

namespace Decimal

/-- The power of ten that the first digit of `c · 10 ^ d` stands for. -/
def leadingPower (c : Nat) (d : Int) : Int := ((Nat.toDigits 10 c).length : Int) - 1 + d

/-- `c · 10 ^ d` with all its places, at least one of them behind the point. -/
def positional (c : Nat) (d : Int) : List Char :=
  let digits := Nat.toDigits 10 c
  if d ≥ 0 then digits ++ List.replicate d.toNat '0' ++ ['.', '0']
  else
    let places := (-d).toNat
    let padded := List.replicate (places + 1 - digits.length) '0' ++ digits
    let whole := padded.length - places
    padded.take whole ++ '.' :: padded.drop whole

/-- `c · 10 ^ d` with one digit before the point, the point only if more digits follow, and the
power of ten with its sign. -/
def scientific (c : Nat) (d : Int) : List Char :=
  let power := leadingPower c d
  let digits := match Nat.toDigits 10 c with
    | first :: second :: rest => first :: '.' :: second :: rest
    | short => short
  digits ++ 'e' :: (if power < 0 then '-' else '+') :: Nat.toDigits 10 power.natAbs

end Decimal

/-- The text of a number in a style. -/
def Double.toText (style : DecimalStyle) (x : Double) : String :=
  if x.isNotANumber then "NaN"
  else
    let sign := if x.isNegative then "-" else ""
    if x.isInfinite then sign ++ "inf"
    else
      let (c, d) := x.shortest style.tie
      let digits := if style.isPositional (Decimal.leadingPower c d) then Decimal.positional c d
        else Decimal.scientific c d
      sign ++ String.ofList digits

end ServiceShapes
