import ServiceShapes.Decimal.Double

/-!
# The shortest decimal of a double

`Double.shortest` gives the decimal `c · 10 ^ d` with the fewest digits that reads back as a finite
number.

The digits come from exact arithmetic.  The reals that round to the number form an interval whose
ends lie half-way to its two neighbours and belong to it exactly when its significand is even.  The
grid of multiples of `10 ^ d` is refined step by step until it meets the interval.  The coarsest
grid that does gives the fewest digits, and of its two points around the number the nearer one is
taken.  A `Tie` says which one that is where both are equally near.
-/

namespace ServiceShapes

/-- Which of two equally near decimals is taken. -/
inductive Tie
  /-- The one whose last digit is even. -/
  | toEven
  /-- The one that is farther from zero. -/
  | awayFromZero
deriving DecidableEq, Repr, Inhabited

/-- Whether a tie between `below` and `below + 1` goes to `below`. -/
def Tie.takesBelow : Tie → (below : Nat) → Bool
  | .toEven, below => below % 2 == 0
  | .awayFromZero, _ => false

namespace Double

/-- The interval of reals that round to a number, in quarters of its last place: the number, the
two ends, the power of two that one quarter stands for, and whether the ends belong to it. -/
structure Interval where
  value : Nat
  low : Nat
  high : Nat
  scale : Int
  closed : Bool

/-- The rounding interval of a finite number.  Below a power of two the lower neighbour is only
half as far away. -/
def interval (x : Double) : Interval :=
  let m := x.significand
  { value := 4 * m
    low := 4 * m - if x.fractionBits = 0 ∧ 1 < x.exponentBits then 1 else 2
    high := 4 * m + 2
    scale := x.exponent - 2
    closed := m % 2 == 0 }

/-- The point of the grid of multiples of `10 ^ d` that lies in the interval and next to its
number, if there is one. -/
def gridPoint? (tie : Tie) (i : Interval) (d : Int) : Option Nat :=
  let num := Nat.pow 2 i.scale.toNat * Nat.pow 10 (-d).toNat
  let den := Nat.pow 2 (-i.scale).toNat * Nat.pow 10 d.toNat
  let inside (c : Nat) : Bool :=
    if i.closed then i.low * num ≤ c * den && c * den ≤ i.high * num
    else i.low * num < c * den && c * den < i.high * num
  let below := i.value * num / den
  let twiceAbove := 2 * (i.value * num - below * den)
  let nearBelow : Bool := twiceAbove < den || (twiceAbove == den && tie.takesBelow below)
  match decide (0 < below) && inside below, inside (below + 1) with
  | true, true => some (if nearBelow then below else below + 1)
  | true, false => some below
  | false, true => some (below + 1)
  | false, false => none

/-- The first grid among `10 ^ d`, `10 ^ (d - 1)`, … that meets the interval. -/
def coarsest (tie : Tie) (i : Interval) : (grids : Nat) → (d : Int) → Nat × Int
  | 0, d => (0, d)
  | grids + 1, d => match gridPoint? tie i d with
    | some c => (c, d)
    | none => coarsest tie i grids (d - 1)

/-- The digits `c` and the power `d` with `c · 10 ^ d` the shortest decimal of a finite number. -/
def shortest (tie : Tie) (x : Double) : Nat × Int :=
  if x.significand = 0 then (0, 0) else coarsest tie x.interval 640 309

end Double

end ServiceShapes
