import TextCatalog.Double.Basic

/-!
# TextCatalog.Double.Shortest

The decimal with the fewest digits that stands for a double.

* `Double.isReadFrom` — whether a double is the nearest one to a decimal.
* `Double.shortest` — on the coarsest grid of decimals that has one which reads back, the one
  that is nearest to the double.

A double that is not zero is a number of the smallest units.
-/

namespace TextCatalog
namespace Double

/-- Digits times a power of ten. -/
structure Decimal where
  digits : Nat
  power : Int
  deriving DecidableEq

/-- Below a power of two the doubles are half as far apart as above it. -/
def isNarrowBelow (n : Nat) : Bool :=
  decide (1 < lastBit n) && n == Nat.pow 2 52 * lastBit n

/-- The least number that reads as a double, in quarters of the unit. -/
def lowest (n : Nat) : Nat := 4 * n - if isNarrowBelow n then lastBit n else 2 * lastBit n

/-- The greatest number that reads as a double, in quarters of the unit. -/
def highest (n : Nat) : Nat := 4 * n + 2 * lastBit n

/-- A number between two doubles reads as the one whose last bit is not set. -/
def isEven (n : Nat) : Bool := n / lastBit n % 2 == 0

def isReadFrom (n : Nat) (d : Decimal) : Bool :=
  let quarters := 4 * unitsPerOne * d.digits * Nat.pow 10 d.power.toNat
  let scale := Nat.pow 10 (-d.power).toNat
  if isEven n then decide (lowest n * scale ≤ quarters) && decide (quarters ≤ highest n * scale)
  else decide (lowest n * scale < quarters) && decide (quarters < highest n * scale)

/-- Of the two neighbours of a double on a grid the nearest that reads back, if one does. -/
def onGrid? (n : Nat) (power : Int) : Option Decimal :=
  let num := n * Nat.pow 10 (-power).toNat
  let den := unitsPerOne * Nat.pow 10 power.toNat
  let near := nearestWhole num den
  let far := if near = num / den then near + 1 else near - 1
  ([near, far].map fun digits => ⟨digits, power⟩).find? (isReadFrom n)

/-- No grid is coarser than the greatest double. -/
def maxPower : Int := 308

/-- How many grids there are down to seventeen digits of the smallest double. -/
def gridCount : Nat := 650

def shortest (n : Nat) : Decimal :=
  ((List.range gridCount).findSome? fun (i : Nat) => onGrid? n (maxPower - i)).getD ⟨0, 0⟩

end Double
end TextCatalog
