/-!
# TextCatalog.Instant.Calendar

Dates of the proleptic Gregorian calendar and their numbers, counted in days from 1970-01-01.

* `Date.ofDays`, `Date.toDays` — between numbers and dates.
* `Date.isValid` — the date occurs in the calendar.
* `toDays_ofDays`, `isValid_ofDays` — every number is that of a date.

Years are taken to start on the first of March, so that a leap day ends its year. An era is four
centuries, a century 25 quads, a quad four years; only the last part of each may be a day longer
than the others.
-/

namespace TextCatalog

structure Date where
  year : Int
  month : Nat
  day : Nat
  deriving DecidableEq

namespace Date

def isLeapYear (y : Int) : Bool := y % 4 == 0 && (y % 100 != 0 || y % 400 == 0)

def daysInMonth (y : Int) (m : Nat) : Nat :=
  if m = 2 then (if isLeapYear y then 29 else 28)
  else if m = 4 ∨ m = 6 ∨ m = 9 ∨ m = 11 then 30
  else 31

def isValid (d : Date) : Bool :=
  decide (1 ≤ d.month) && decide (d.month ≤ 12) && decide (1 ≤ d.day) &&
    decide (d.day ≤ daysInMonth d.year d.month)

/-- Days from the first of March of year 0 to 1970-01-01. -/
def epochDay : Int := 719468

def daysPerEra : Int := 146097

/-- The quotient, but never past the last of four parts. -/
def partOfFour (length n : Int) : Int := if n / length < 4 then n / length else 3

/-- The day of an era from its year of the era and its day of the year, both counted from zero. -/
def dayOfEra (yearOfEra dayOfYear : Int) : Int :=
  365 * yearOfEra + yearOfEra / 4 - yearOfEra / 100 + dayOfYear

def yearOfEra (day : Int) : Int :=
  let century := partOfFour 36524 day
  let quad := (day - 36524 * century) / 1461
  100 * century + 4 * quad + partOfFour 365 (day - 36524 * century - 1461 * quad)

/-- The day of a year at which a month starts, months counted from March as zero. -/
def monthStart (m : Int) : Int := (153 * m + 2) / 5

def monthOfDay (dayOfYear : Int) : Int := (5 * dayOfYear + 2) / 153

/-- A day by era, year of the era, month and day of the month, all counted from zero in March. -/
def dayNumber (era year month day : Int) : Int :=
  era * daysPerEra + dayOfEra year (monthStart month + day) - epochDay

def toDays (d : Date) : Int :=
  let m : Int := d.month
  let y := if m ≤ 2 then d.year - 1 else d.year
  dayNumber (y / 400) (y % 400) (if m ≤ 2 then m + 9 else m - 3) (d.day - 1)

/-- The calendar date of a day by era, year of the era, month and day from March. -/
def ofParts (era year month day : Int) : Date :=
  if month < 10 then ⟨400 * era + year, (month + 3).toNat, (day + 1).toNat⟩
  else ⟨400 * era + year + 1, (month - 9).toNat, (day + 1).toNat⟩

def ofDays (days : Int) : Date :=
  let z := days + epochDay
  let doe := z % daysPerEra
  let year := yearOfEra doe
  let doy := doe - dayOfEra year 0
  let month := monthOfDay doy
  ofParts (z / daysPerEra) year month (doy - monthStart month)

/-! ## Numbers and dates -/

theorem partOfFour_century {n : Int} (low : 0 ≤ n) (high : n < 146097) :
    0 ≤ partOfFour 36524 n ∧ partOfFour 36524 n < 4 ∧ 0 ≤ n - 36524 * partOfFour 36524 n ∧
      (n - 36524 * partOfFour 36524 n < 36524 ∨
        (n = 146096 ∧ partOfFour 36524 n = 3)) := by
  unfold partOfFour; split <;> omega

theorem partOfFour_year {n : Int} (low : 0 ≤ n) (high : n < 1461) :
    0 ≤ partOfFour 365 n ∧ partOfFour 365 n < 4 ∧ 0 ≤ n - 365 * partOfFour 365 n ∧
      (n - 365 * partOfFour 365 n < 365 ∨ (n = 1460 ∧ partOfFour 365 n = 3)) := by
  unfold partOfFour; split <;> omega

theorem dayOfEra_parts {century quad year day : Int} (hq : 0 ≤ quad ∧ quad < 25)
    (hy : 0 ≤ year ∧ year < 4) :
    dayOfEra (100 * century + 4 * quad + year) day =
      36524 * century + 1461 * quad + 365 * year + day := by
  unfold dayOfEra; omega

/-- A year from March that ends in a leap day. -/
def isLong (yearOfEra : Int) : Prop :=
  yearOfEra % 4 = 3 ∧ (yearOfEra % 100 ≠ 99 ∨ yearOfEra = 399)

theorem yearOfEra_bounds {n : Int} (low : 0 ≤ n) (high : n < 146097) :
    0 ≤ yearOfEra n ∧ yearOfEra n < 400 ∧ 0 ≤ n - dayOfEra (yearOfEra n) 0 ∧
      (n - dayOfEra (yearOfEra n) 0 < 365 ∨
        (n - dayOfEra (yearOfEra n) 0 = 365 ∧ isLong (yearOfEra n))) := by
  have hc := partOfFour_century low high
  unfold yearOfEra isLong
  simp only
  generalize partOfFour 36524 n = century at *
  generalize hquad : (n - 36524 * century) / 1461 = quad
  have hq : 0 ≤ quad ∧ quad < 25 := by omega
  have hy := @partOfFour_year (n - 36524 * century - 1461 * quad) (by omega) (by omega)
  generalize partOfFour 365 (n - 36524 * century - 1461 * quad) = year at *
  rw [dayOfEra_parts hq (by omega)]
  omega

theorem monthOfDay_bounds {day : Int} (h : 0 ≤ day ∧ day ≤ 365) :
    0 ≤ monthOfDay day ∧ monthOfDay day < 12 ∧ monthStart (monthOfDay day) ≤ day ∧
      day < monthStart (monthOfDay day + 1) := by
  unfold monthOfDay monthStart; omega

theorem toDays_ofParts {era year month day : Int} (hy : 0 ≤ year ∧ year < 400)
    (hm : 0 ≤ month ∧ month < 12) (hd : 0 ≤ day) :
    toDays (ofParts era year month day) = dayNumber era year month day := by
  unfold ofParts
  split
  · unfold toDays
    simp only
    have h1 : ¬((month + 3).toNat : Int) ≤ 2 := by omega
    rw [if_neg h1, if_neg h1]
    congr 1 <;> omega
  · unfold toDays
    simp only
    have h1 : ((month - 9).toNat : Int) ≤ 2 := by omega
    rw [if_pos h1, if_pos h1]
    congr 1 <;> omega

theorem toDays_ofDays (days : Int) : toDays (ofDays days) = days := by
  unfold ofDays
  simp only
  have he : 0 ≤ (days + epochDay) % daysPerEra ∧ (days + epochDay) % daysPerEra < 146097 := by
    unfold daysPerEra; omega
  have hy := yearOfEra_bounds he.1 he.2
  have hm := @monthOfDay_bounds
    ((days + epochDay) % daysPerEra - dayOfEra (yearOfEra ((days + epochDay) % daysPerEra)) 0)
    (by omega)
  rw [toDays_ofParts ⟨hy.1, hy.2.1⟩ ⟨hm.1, hm.2.1⟩ (by omega)]
  unfold dayNumber
  have split : ∀ y d, dayOfEra y d = dayOfEra y 0 + d := by intro y d; unfold dayOfEra; omega
  rw [split]
  have := Int.mul_ediv_add_emod (days + epochDay) daysPerEra
  rw [Int.mul_comm ((days + epochDay) / daysPerEra)]
  omega

theorem isLeapYear_of_isLong {era year : Int} (h : isLong year) :
    isLeapYear (400 * era + year + 1) = true := by
  unfold isLong at h
  have h4 : (400 * era + year + 1) % 4 = 0 := by omega
  have h100 : (400 * era + year + 1) % 100 ≠ 0 ∨ (400 * era + year + 1) % 400 = 0 := by omega
  unfold isLeapYear
  simp only [h4, beq_self_eq_true, Bool.true_and, Bool.or_eq_true, bne_iff_ne, beq_iff_eq]
  exact h100

theorem isValid_ofParts {era year month day : Int} (hm : 0 ≤ month ∧ month < 12)
    (hd : 0 ≤ day ∧ day < monthStart (month + 1) - monthStart month)
    (hlen : monthStart month + day < 365 ∨ (monthStart month + day = 365 ∧ isLong year)) :
    (ofParts era year month day).isValid = true := by
  have bound : ∀ (y : Int) (m : Nat), (28 : Nat) ≤ daysInMonth y m := by
    intro y m; unfold daysInMonth; split
    · split <;> omega
    · split <;> omega
  unfold ofParts
  split
  · rename_i early
    have hday : (day + 1).toNat ≤ daysInMonth (400 * era + year) (month + 3).toNat := by
      have cases : month = 0 ∨ month = 1 ∨ month = 2 ∨ month = 3 ∨ month = 4 ∨ month = 5 ∨
          month = 6 ∨ month = 7 ∨ month = 8 ∨ month = 9 := by omega
      rcases cases with h | h | h | h | h | h | h | h | h | h <;> subst h <;>
        simp only [monthStart] at hd <;> simp [daysInMonth] <;> omega
    unfold isValid
    simp only [Bool.and_eq_true, decide_eq_true_eq]
    omega
  · have hday : (day + 1).toNat ≤ daysInMonth (400 * era + year + 1) (month - 9).toNat := by
      have cases : month = 10 ∨ month = 11 := by omega
      rcases cases with h | h
      · subst h
        simp only [monthStart] at hd
        simp [daysInMonth]
        omega
      · subst h
        simp only [monthStart] at hd hlen
        rcases hlen with short | ⟨last, long⟩
        · exact Nat.le_trans (by omega) (bound _ _)
        · simp [daysInMonth, isLeapYear_of_isLong long]
          omega
    unfold isValid
    simp only [Bool.and_eq_true, decide_eq_true_eq]
    omega

theorem isValid_ofDays (days : Int) : (ofDays days).isValid = true := by
  unfold ofDays
  simp only
  have he : 0 ≤ (days + epochDay) % daysPerEra ∧ (days + epochDay) % daysPerEra < 146097 := by
    unfold daysPerEra; omega
  have hy := yearOfEra_bounds he.1 he.2
  have hm := @monthOfDay_bounds
    ((days + epochDay) % daysPerEra - dayOfEra (yearOfEra ((days + epochDay) % daysPerEra)) 0)
    (by omega)
  refine isValid_ofParts ⟨hm.1, hm.2.1⟩ (by omega) ?_
  rcases hy.2.2.2 with short | ⟨last, long⟩
  · exact Or.inl (by omega)
  · exact Or.inr ⟨by omega, long⟩

end Date

end TextCatalog
