import MetricGateway.Binary64

/-!
# The shortest decimal of a binary number

A finite number `mantissa * 2 ^ exponent` stands for all reals nearer to it than to any other
number of the format. Among the decimals in that interval the one with the fewest digits is
taken, of several the nearest to the number.

The search goes from coarse to fine grids of decimals. A grid holds a point of the interval only
if one of the two neighbours of the number on that grid lies in it, so two tests per grid suffice.
-/

namespace MetricGateway

/-- The decimal number `digits * 10 ^ exponent`. -/
structure Decimal where
  /-- The digits, read as one natural number. -/
  digits : Nat
  /-- The power of ten that weighs the last digit. -/
  exponent : Int
  deriving DecidableEq, Repr

namespace Decimal

/-- Which of two equally near decimals is taken. -/
inductive Tie where
  /-- The one whose last digit is even. -/
  | toEven
  /-- The larger one. -/
  | upwards
  deriving DecidableEq, Repr

/-- Compares `a * 10 ^ i` with `b * 2 ^ j` exactly. -/
def compareScaled (a : Nat) (i : Int) (b : Nat) (j : Int) : Ordering :=
  compare (a * Power.num 10 i * Power.den 2 j) (b * Power.num 2 j * Power.den 10 i)

/-- Whether the decimal `n * 10 ^ grid` lies among the reals that round to
`mantissa * 2 ^ exponent`. Below a power of two the neighbour is half as far away as above it.
The ends of the interval belong to it exactly when the mantissa is even. -/
def readsBack (mantissa : Nat) (exponent : Int) (n : Nat) (grid : Int) : Bool :=
  let narrow := mantissa = Binary64.leadingBit ∧ -1074 < exponent
  let low := if narrow then 4 * mantissa - 1 else 4 * mantissa - 2
  let ends := mantissa % 2 = 0
  let fromLow := compareScaled n grid low (exponent - 2)
  let fromHigh := compareScaled n grid (4 * mantissa + 2) (exponent - 2)
  (fromLow = .gt ∨ (ends ∧ fromLow = .eq)) ∧ (fromHigh = .lt ∨ (ends ∧ fromHigh = .eq))

/-- The largest multiple of `10 ^ grid` that is at most `mantissa * 2 ^ exponent`, as a count. -/
def countBelow (mantissa : Nat) (exponent grid : Int) : Nat :=
  mantissa * Power.num 2 exponent * Power.den 10 grid / (Power.den 2 exponent * Power.num 10 grid)

/-- Whether the upper of two neighbours on a grid, `low + 1`, is to be taken rather than `low`:
it is nearer to the number, or equally near and the tie goes to it. -/
def prefersUpper (tie : Tie) (mantissa : Nat) (exponent grid : Int) (low : Nat) : Bool :=
  match compareScaled (2 * low + 1) grid (2 * mantissa) exponent with
  | .lt => true
  | .gt => false
  | .eq => tie = .upwards ∨ low % 2 = 1

/-- The decimal of one grid that reads back to the number, if there is one. -/
def onGrid (tie : Tie) (mantissa : Nat) (exponent grid : Int) : Option Nat :=
  let low := countBelow mantissa exponent grid
  let lowHits := low ≠ 0 ∧ readsBack mantissa exponent low grid
  let highHits := readsBack mantissa exponent (low + 1) grid
  match decide lowHits, highHits with
  | true, true => some (if prefersUpper tie mantissa exponent grid low then low + 1 else low)
  | true, false => some low
  | false, true => some (low + 1)
  | false, false => none

/-- The decimal of the first grid that holds one, over `steps` grids from `grid` downwards. -/
def search (tie : Tie) (mantissa : Nat) (exponent : Int) : Nat → Int → Option Decimal
  | 0, _ => none
  | steps + 1, grid =>
    match onGrid tie mantissa exponent grid with
    | some n => some ⟨n, grid⟩
    | none => search tie mantissa exponent steps (grid - 1)

/-- The same decimal number without zeros at the end of its digits, dropping at most `steps`. -/
def stripZeros : Nat → Decimal → Decimal
  | 0, d => d
  | steps + 1, d =>
    if d.digits ≠ 0 ∧ d.digits % 10 = 0 then stripZeros steps ⟨d.digits / 10, d.exponent + 1⟩
    else d

/-- A power of ten above the number: a bit is worth at most `0.30103` decimal digits. -/
def startingGrid (mantissa : Nat) (exponent : Int) : Int :=
  ((mantissa.log2 : Int) + 1 + exponent) * 30103 / 100000 + 1

/-- The exact decimal of a binary number. -/
def exact (mantissa : Nat) (exponent : Int) : Decimal :=
  ⟨mantissa * Power.num 2 exponent * Power.den 5 exponent, min exponent 0⟩

/-- The decimal with the fewest digits that reads back to a positive number. Seventeen digits
always suffice, and the starting grid is at most a few powers of ten too coarse. -/
def shortest (tie : Tie) (mantissa : Nat) (exponent : Int) : Decimal :=
  match search tie mantissa exponent 24 (startingGrid mantissa exponent) with
  | some d => stripZeros 24 d
  | none => exact mantissa exponent

end Decimal

end MetricGateway
