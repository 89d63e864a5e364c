import TextCatalog.Double.Printer
import TextCatalog.Json.Basic
import TextCatalog.Text.Digits

/-!
# TextCatalog.Json.Number

The numbers that numerals stand for.

* `Numeral.integer?` — an integer, if the numeral has neither fraction nor exponent and the
  integer has no more than 64 bits.
* `Numeral.units?` — else the double nearest to the leading digits, times or through the double
  nearest to a power of ten. As many leading digits count as make a number of 64 bits.
* `Numeral.number?` — the number; no numeral stands for one that is too great for a double.
-/

namespace TextCatalog
namespace Json

open Text

inductive Number where
  | integer (z : Int)
  | double (negative : Bool) (units : Nat)
  deriving DecidableEq

namespace Number

def name : Number → String
  | integer z => "integer \x60" ++ toString z ++ "\x60"
  | double negative units => "floating point \x60" ++ Double.text negative units ++ "\x60"

end Number

/-- From here on a whole number is no double. -/
def infinityFrom : Nat := Nat.pow 2 1024

/-- The greatest power of ten that is a finite double. -/
def maxPower : Nat := 308

/-- The size of the least negative integer. -/
def negativeMax : Nat := 9223372036854775808

def powerOfTen (k : Nat) : Nat := Double.nearest (Nat.pow 10 k) 1

/-- Greater divisors take two steps; from a number of 64 bits those of three leave nothing. -/
def divided (units k : Nat) : Nat :=
  if k ≤ maxPower then Double.nearest units (powerOfTen k)
  else if k ≤ 2 * maxPower then
    Double.nearest (Double.nearest units (powerOfTen maxPower)) (powerOfTen (k - maxPower))
  else 0

def multiplied? (whole k : Nat) : Option Nat :=
  if maxPower < k then none
  else
    let product := Double.nearest (whole * powerOfTen k) 1
    if product < infinityFrom then some (product * Double.unitsPerOne) else none

namespace Numeral

/-- Zero with a sign is no integer. -/
def integer? (n : Numeral) : Option Int :=
  match n.negative, n.fraction, n.exponent with
  | false, [], none => if n.whole < counts then some n.whole else none
  | true, [], none =>
    if 0 < n.whole ∧ n.whole ≤ negativeMax then some (-(n.whole : Int)) else none
  | _, _, _ => none

def units? (n : Numeral) : Option Nat :=
  let (digits, scale) := significand counts (numeral n.whole) n.fraction
  let power := scale + n.exponent.getD 0
  if digits = 0 then some 0
  else
    let whole := Double.nearest digits 1
    if power < 0 then some (divided (whole * Double.unitsPerOne) power.natAbs)
    else multiplied? whole power.toNat

def number? (n : Numeral) : Option Number :=
  match n.integer? with
  | some z => some (.integer z)
  | none => n.units?.map (.double n.negative)

end Numeral

end Json
end TextCatalog
