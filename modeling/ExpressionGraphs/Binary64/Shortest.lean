import ExpressionGraphs.Binary64.Basic

set_option autoImplicit false

/-!
# Shortest decimals

The shortest decimal of a finite nonzero number is the one with the fewest digits among
those that read back to it, the nearest of these, and the larger of two equally near ones.
All comparisons are between natural numbers.
-/

namespace ExpressionGraphs

/-- The number `digits * 10 ^ exponent`. -/
structure Decimal where
  digits : Nat
  exponent : Int
  deriving DecidableEq, Repr

/-- The reals that round to a number, as fractions `low`, `mid` and `high` over `unit`.
The ends round to the number as well when it is `closed`. -/
structure RoundingInterval where
  low : Nat
  mid : Nat
  high : Nat
  unit : Nat
  closed : Bool
  deriving DecidableEq, Repr

namespace Binary64

/-- The lower neighbour of a power of two is only half as far away as the upper one,
except below the least normal number. -/
def roundingInterval (x : Binary64) : RoundingInterval :=
  let m := x.significand
  let up := Nat.pow 2 (x.scale - 2).toNat
  let gap := if x.fraction = 0 && 1 < x.biasedExponent then 1 else 2
  { low := (4 * m - gap) * up
    mid := 4 * m * up
    high := (4 * m + 2) * up
    unit := Nat.pow 2 (2 - x.scale).toNat
    closed := m % 2 = 0 }

end Binary64

namespace RoundingInterval

def includes (i : RoundingInterval) (n d : Nat) : Bool :=
  if i.closed then i.low * d ≤ n * i.unit && n * i.unit ≤ i.high * d
  else i.low * d < n * i.unit && n * i.unit < i.high * d

/-- The point of the grid `10 ^ step` that reads back and is nearest, if there is one. -/
def gridPoint (i : RoundingInterval) (step : Int) : Option Nat :=
  let coarse := Nat.pow 10 step.toNat
  let fine := Nat.pow 10 (-step).toNat
  let below := i.mid * fine / (i.unit * coarse)
  let remainder := i.mid * fine % (i.unit * coarse)
  match i.includes (below * coarse) fine, i.includes ((below + 1) * coarse) fine with
  | true, true => some (if 2 * remainder < i.unit * coarse then below else below + 1)
  | true, false => some below
  | false, true => some (below + 1)
  | false, false => none

def lift : Nat := 330

def leadingExponent (i : RoundingInterval) : Int :=
  ((Nat.toDigits 10 (i.mid * Nat.pow 10 lift / i.unit)).length : Int) - 1 - lift

/-- Seventeen digits always suffice. -/
def shortest (i : RoundingInterval) : Decimal :=
  let lead := i.leadingExponent
  ((List.range 17).findSome? fun (n : Nat) =>
    (i.gridPoint (lead - n)).map (⟨·, lead - n⟩)).getD ⟨0, 0⟩

end RoundingInterval

def Binary64.shortest (x : Binary64) : Decimal := x.roundingInterval.shortest

end ExpressionGraphs
