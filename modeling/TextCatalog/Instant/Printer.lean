import TextCatalog.Instant.Basic
import TextCatalog.Instant.Calendar
import TextCatalog.Text.Digits

/-!
# TextCatalog.Instant.Printer

Instants as text: date, `T`, time of day, fraction of the second and `Z`.

* `columnText` — always nine digits in the fraction, so that texts of the years 0 to 9999 are
  ordered as their instants are.
* `shortText` — the fewest of no, three, six or nine digits that are exact.

A leap second is written as second 60.
-/

namespace TextCatalog
namespace Instant

open Text

/-- Four digits, with a sign where the year needs one or has more digits. -/
def yearText (y : Int) : List Char :=
  if 0 ≤ y ∧ y ≤ 9999 then padded 4 y.toNat
  else if y < 0 then '-' :: padded 4 y.natAbs
  else '+' :: padded 4 y.toNat

def dateText (d : Date) : List Char :=
  yearText d.year ++ '-' :: padded 2 d.month ++ '-' :: padded 2 d.day

/-- The time of day, given the second of the day and whether it is the leap second after it. -/
def timeText (second : Nat) (isLeap : Bool) : List Char :=
  padded 2 (second / 3600) ++ ':' :: padded 2 (second / 60 % 60) ++
    ':' :: padded 2 (second % 60 + if isLeap then 1 else 0)

def secondsPerDay : Int := 86400

def date (t : Instant) : Date := Date.ofDays (t.seconds / secondsPerDay)

def secondOfDay (t : Instant) : Nat := (t.seconds % secondsPerDay).toNat

def isLeap (t : Instant) : Bool := decide (nanosPerSecond ≤ t.nanos)

/-- Nanoseconds past the second that is written. -/
def fraction (t : Instant) : Nat := t.nanos % nanosPerSecond

def columnFraction (n : Nat) : List Char := '.' :: padded 9 n

def shortFraction (n : Nat) : List Char :=
  if n = 0 then []
  else if n % 1000000 = 0 then '.' :: padded 3 (n / 1000000)
  else if n % 1000 = 0 then '.' :: padded 6 (n / 1000)
  else '.' :: padded 9 n

def textWith (fractionText : Nat → List Char) (t : Instant) : List Char :=
  dateText t.date ++ 'T' :: timeText t.secondOfDay t.isLeap ++ fractionText t.fraction ++ ['Z']

def columnText (t : Instant) : String := String.ofList (textWith columnFraction t)

def shortText (t : Instant) : String := String.ofList (textWith shortFraction t)

end Instant
end TextCatalog
