import InsertRouting.Number.Decimal
import InsertRouting.Number.Double

namespace InsertRouting
namespace Number
namespace Double

/-!
# The shortest decimal that reads back as a double

A double is written with the fewest digits that are read back as the same double,
and among those with the digits nearest to it; of two equally near ones the
greater is taken.  The search goes over the grids of multiples of a power of ten,
from coarse to fine.  If a grid has a point that reads back, so has one of the two
grid points next to the double, and only these are tried.
-/

/-- A positive finite double with the numbers that read back as it: in units of a
quarter of its last place, the numbers between `low` and `high`, the ends included
when the significand is even. -/
structure Neighbourhood where
  low : Nat
  value : Nat
  high : Nat
  closed : Bool
  /-- Power of two of one unit. -/
  unit : Int

/-- The step below a power of two is half as wide as the step above it. -/
def neighbourhood (d : Double) : Neighbourhood where
  low := 4 * d.significand - (if d.significand = exponentWeight then 1 else 2)
  value := 4 * d.significand
  high := 4 * d.significand + 2
  closed := d.significand % 2 == 0
  unit := d.scale - 2

namespace Neighbourhood

/-- Common measure of the units of the neighbourhood at a power of ten. -/
def unitWeight (n : Neighbourhood) (power : Int) : Nat :=
  Nat.pow 2 n.unit.toNat * Nat.pow 10 (-power).toNat

/-- Common measure of the points of the grid at a power of ten. -/
def pointWeight (n : Neighbourhood) (power : Int) : Nat :=
  Nat.pow 2 (-n.unit).toNat * Nat.pow 10 power.toNat

/-- The grid point `point * 10 ^ power` reads back as the double. -/
def contains (n : Neighbourhood) (power : Int) (point : Nat) : Bool :=
  let low := n.low * n.unitWeight power
  let high := n.high * n.unitWeight power
  let place := point * n.pointWeight power
  if n.closed then decide (low ≤ place) && decide (place ≤ high)
  else decide (low < place) && decide (place < high)

/-- The point of the grid just below the double, or at it. -/
def pointBelow (n : Neighbourhood) (power : Int) : Nat :=
  n.value * n.unitWeight power / n.pointWeight power

/-- The point above is at least as near as the point below. -/
def nearerAbove (n : Neighbourhood) (power : Int) : Bool :=
  decide (n.pointWeight power ≤ 2 * (n.value * n.unitWeight power % n.pointWeight power))

/-- The point of the grid to write the double with, if there is one. -/
def gridPoint? (n : Neighbourhood) (power : Int) : Option Nat :=
  let below := n.pointBelow power
  match n.contains power below, n.contains power (below + 1) with
  | true, true => some (if n.nearerAbove power then below + 1 else below)
  | true, false => some below
  | false, true => some (below + 1)
  | false, false => none

/-- Exponent of the finest grid that is needed: the smallest positive double has
one digit at this power of ten. -/
def finestPower : Int := -324

/-- The decimal on the coarsest grid with a point that reads back, among the
`steps` grids above the finest one and the finest one itself. -/
def coarsest (n : Neighbourhood) : Nat → Decimal
  | 0 => ⟨(n.gridPoint? finestPower).getD (n.pointBelow finestPower), finestPower⟩
  | steps + 1 =>
      let power := finestPower + (steps + 1)
      match n.gridPoint? power with
      | some point => ⟨point, power⟩
      | none => n.coarsest steps

end Neighbourhood

/-- The shortest decimal that reads back as a positive finite double. -/
def shortest (d : Double) : Decimal :=
  d.neighbourhood.coarsest 633

/-- The text of a double: its shortest digits without an exponent. -/
def text (d : Double) : String :=
  if d.isNaN then "NaN"
  else
    let sign := if d.isNegative then ['-'] else []
    let body :=
      if d.isInfinite then ['i', 'n', 'f']
      else if d.isZero then ['0']
      else d.shortest.positional
    String.ofList (sign ++ body)

end Double
end Number
end InsertRouting
