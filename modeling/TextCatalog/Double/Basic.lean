/-!
# TextCatalog.Double.Basic

Which doubles stand for decimals.

* `Double.nearest` — the number of 53 significant bits that is nearest to a quotient.
* `Double.ofDecimal` — the double of a decimal, in the smallest unit of the doubles.

Every finite double is a whole number of these units, so doubles are compared as numbers.
-/

namespace TextCatalog
namespace Double

/-- The whole number nearest to a quotient; of two, the even one. -/
def nearestWhole (num den : Nat) : Nat :=
  let q := num / den
  let r := num % den
  if 2 * r < den then q
  else if den < 2 * r then q + 1
  else q + q % 2

/-- What the last of the 53 significant bits of a number counts, and never less than one. -/
def lastBit (n : Nat) : Nat := if n.log2 < 53 then 1 else Nat.pow 2 (n.log2 - 52)

def nearest (num den : Nat) : Nat :=
  let unit := lastBit (num / den)
  nearestWhole num (den * unit) * unit

/-- How many of the smallest unit make one. -/
def unitsPerOne : Nat := Nat.pow 2 1074

/-- The greatest finite double, in units. -/
def greatest : Nat := Nat.pow 2 2098 - Nat.pow 2 2045

/-- Stands for all that is greater than the greatest finite double. -/
def infinity : Nat := Nat.pow 2 2098

/-- Scales past this bound leave no number of 64 bits within the doubles. -/
def scaleBound : Int := 400

/-- The double of a significand of 64 bits times a power of ten. -/
def ofDecimal (significand : Nat) (scale : Int) : Nat :=
  if significand = 0 ∨ scale < -scaleBound then 0
  else if scaleBound < scale then infinity
  else
    let num := significand * Nat.pow 10 scale.toNat * unitsPerOne
    let den := Nat.pow 10 (-scale).toNat
    if greatest * den < num then infinity else nearest num den

end Double
end TextCatalog
