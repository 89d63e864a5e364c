import TextCatalog.Double.Basic
import TextCatalog.Text.Reader

/-!
# TextCatalog.Table.Cell

The cells of a column that keeps numbers where it can: a text that reads as a number is kept as
that number, and any other text as it stands.

* `WrittenNumber.ofText?` — a decimal with or without sign, point and exponent, and spaces
  around it.
* `Cell.ofText` — the cell that a text becomes.
* `Cell.isBefore` — numbers by their values, then texts by code points.
-/

namespace TextCatalog

open Text

/-- The greatest number of an integer column. -/
def columnMax : Nat := 9223372036854775807

def columnMin : Int := -9223372036854775808

inductive NumberKind where
  | integer
  | real
  deriving DecidableEq

/-- An integer of 64 bits or a double, in the smallest unit of the doubles. -/
structure CellNumber where
  kind : NumberKind
  units : Int
  deriving DecidableEq

inductive Cell where
  | number (n : CellNumber)
  | text (s : String)
  deriving DecidableEq

/-- The parts of a number, the digits as they stand. -/
structure WrittenNumber where
  negative : Bool
  whole : List Char
  fraction : Option (List Char)
  exponent : Option Int
  deriving DecidableEq

namespace WrittenNumber

/-! ## Reading -/

def isSpace (c : Char) : Bool := c == ' ' || (decide ('\t' ≤ c) && decide (c ≤ '\r'))

def skipSpace : Reader Unit := fun s => some ((), s.dropWhile isSpace)

/-- Whether there is a minus sign; a plus sign is passed over. -/
def minus : Reader Bool
  | '-' :: rest => some (true, rest)
  | '+' :: rest => some (false, rest)
  | s => some (false, s)

def digits : Reader (List Char) := fun s =>
  some (s.takeWhile Char.isDigit, s.dropWhile Char.isDigit)

def point : Reader (Option (List Char))
  | '.' :: rest => (digits rest).map fun r => (some r.1, r.2)
  | s => some (none, s)

/-- Exponents beyond this many are all the same. -/
def exponentBound : Nat := 10000

def appendDigit (e : Nat) (d : Char) : Nat :=
  if e < exponentBound then e * 10 + (d.toNat - '0'.toNat) else exponentBound

def exponentValue (ds : List Char) : Nat := ds.foldl appendDigit 0

def signed (negative : Bool) (n : Nat) : Int := if negative then -(n : Int) else n

def exponentNumber : Reader Int := do
  let negative ← minus
  match ← digits with
  | [] => failure
  | d :: ds => return signed negative (exponentValue (d :: ds))

def power : Reader (Option Int)
  | [] => some (none, [])
  | c :: rest =>
    if c = 'e' ∨ c = 'E' then (exponentNumber rest).map fun r => (some r.1, r.2)
    else some (none, c :: rest)

def hasDigits (w : WrittenNumber) : Bool := !w.whole.isEmpty || w.fraction.any fun ds => !ds.isEmpty

def number : Reader WrittenNumber := do
  skipSpace
  let negative ← minus
  let whole ← digits
  let fraction ← point
  let exponent ← power
  skipSpace
  return ⟨negative, whole, fraction, exponent⟩

def ofText? (s : String) : Option WrittenNumber :=
  (Reader.whole? number s.toList).filter hasDigits

/-! ## Values -/

def isPlain (w : WrittenNumber) : Bool := w.fraction.isNone && w.exponent.isNone

def plainValue (w : WrittenNumber) : Int := signed w.negative (numeralValue w.whole)

/-- Only as many leading digits count as make a number below this limit. -/
def digitLimit : Nat := 18446744073709551600

/-- The nearest double, in units. -/
def units (w : WrittenNumber) : Int :=
  let (digits, scale) := significand digitLimit w.whole (w.fraction.getD [])
  signed w.negative (Double.ofDecimal digits (scale + w.exponent.getD 0))

/-- Whole numbers whose size is below this one are integers, however they are written. -/
def integerBound : Nat := (columnMax + 1) * Double.unitsPerOne

def kindOf (units : Int) : NumberKind :=
  if units % Double.unitsPerOne = 0 ∧ units.natAbs < integerBound then .integer else .real

def toNumber (w : WrittenNumber) : CellNumber :=
  if w.isPlain ∧ columnMin ≤ w.plainValue ∧ w.plainValue ≤ columnMax then
    ⟨.integer, w.plainValue * Double.unitsPerOne⟩
  else ⟨kindOf w.units, w.units⟩

end WrittenNumber

namespace Cell

def ofText (s : String) : Cell :=
  match WrittenNumber.ofText? s with
  | some w => .number w.toNumber
  | none => .text s

def isBefore : Cell → Cell → Bool
  | .number m, .number n => decide (m.units < n.units)
  | .number _, .text _ => true
  | .text _, .number _ => false
  | .text s, .text t => decide (s < t)

end Cell

end TextCatalog
