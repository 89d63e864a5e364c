import TextCatalog.Double.Shortest
import TextCatalog.Text.Digits

/-!
# TextCatalog.Double.Printer

Doubles as text: the fewest digits that read back, with a point in any case where there is no
exponent.

* `Decimal.text` — positional from the fifth place after the point up to sixteen places before
  it, else one digit before the point and an exponent with its sign.
* `Double.text` — sign and digits of a double.
-/

namespace TextCatalog
namespace Double

open Text

/-- The exponents of the first digit with which a number is written by positions. -/
def minPositional : Int := -5

def maxPositional : Int := 15

def zeros (n : Int) : List Char := List.replicate n.toNat '0'

/-- Digits by positions; the first of them counts as many powers of ten as `exponent` says. -/
def positional (digits : List Char) (exponent : Int) : List Char :=
  if exponent < 0 then '0' :: '.' :: zeros (-exponent - 1) ++ digits
  else
    let whole := exponent.toNat + 1
    if digits.length ≤ whole then
      digits ++ List.replicate (whole - digits.length) '0' ++ ['.', '0']
    else digits.take whole ++ '.' :: digits.drop whole

def exponentText (exponent : Int) : List Char :=
  'e' :: (if exponent < 0 then '-' else '+') :: numeral exponent.natAbs

def scientific (digits : List Char) (exponent : Int) : List Char :=
  match digits with
  | [] => []
  | [d] => d :: exponentText exponent
  | d :: ds => d :: '.' :: ds ++ exponentText exponent

def Decimal.text (d : Decimal) : List Char :=
  let digits := numeral d.digits
  let exponent := d.power + digits.length - 1
  if minPositional ≤ exponent ∧ exponent ≤ maxPositional then positional digits exponent
  else scientific digits exponent

/-- A double from its sign and its size in units. -/
def text (negative : Bool) (n : Nat) : String :=
  let size := if n = 0 then ['0', '.', '0'] else (shortest n).text
  String.ofList (if negative then '-' :: size else size)

end Double
end TextCatalog
