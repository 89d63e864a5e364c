import TextCatalog.Instant.Calendar

/-!
# TextCatalog.Proofs.Instant.Calendar

Dates in the order of the calendar.

* `Date.Before` — by year, then month, then day.
* `toDays_lt_of_before` — a later date of the calendar has a greater number.
* `ofDays_before_iff` — so days are numbered in the order of their dates.

As in the calendar itself the years of the proofs start in March: `marchYear` and `dayOfMarchYear`
split the number of a date so that a year is counted by `marchYearStart` alone.
-/

namespace TextCatalog
namespace Date

def Before (a b : Date) : Prop :=
  a.year < b.year ∨ (a.year = b.year ∧
    (a.month < b.month ∨ (a.month = b.month ∧ a.day < b.day)))

theorem before_trichotomy (a b : Date) : a.Before b ∨ a = b ∨ b.Before a := by
  obtain ⟨ya, ma, da⟩ := a
  obtain ⟨yb, mb, db⟩ := b
  simp only [Before, Date.mk.injEq]
  omega

/-! ## Years from March -/

def marchYear (d : Date) : Int := if d.month ≤ 2 then d.year - 1 else d.year

/-- The month counted from March as zero. -/
def marchMonth (d : Date) : Int := if d.month ≤ 2 then d.month + 9 else d.month - 3

def dayOfMarchYear (d : Date) : Int := monthStart d.marchMonth + (d.day - 1)

/-- Days from the first of March of year 0 to that of a year. -/
def marchYearStart (y : Int) : Int := 365 * y + y / 4 - y / 100 + y / 400

theorem toDays_eq (d : Date) :
    d.toDays = marchYearStart d.marchYear + d.dayOfMarchYear - epochDay := by
  unfold toDays dayNumber dayOfEra marchYearStart dayOfMarchYear marchYear marchMonth
  unfold daysPerEra epochDay
  simp only
  split <;> split <;> omega

theorem isValid_iff {d : Date} : d.isValid = true ↔
    1 ≤ d.month ∧ d.month ≤ 12 ∧ 1 ≤ d.day ∧ d.day ≤ daysInMonth d.year d.month := by
  simp [isValid, and_assoc]

theorem isLeapYear_iff {y : Int} :
    isLeapYear y = true ↔ y % 4 = 0 ∧ (y % 100 ≠ 0 ∨ y % 400 = 0) := by
  simp [isLeapYear]

theorem daysInMonth_cases (y : Int) (m : Nat) :
    (m = 2 ∧ isLeapYear y = true ∧ daysInMonth y m = 29) ∨
    (m = 2 ∧ isLeapYear y = false ∧ daysInMonth y m = 28) ∨
    ((m = 4 ∨ m = 6 ∨ m = 9 ∨ m = 11) ∧ daysInMonth y m = 30) ∨
    (m ≠ 2 ∧ m ≠ 4 ∧ m ≠ 6 ∧ m ≠ 9 ∧ m ≠ 11 ∧ daysInMonth y m = 31) := by
  by_cases feb : m = 2
  · subst feb
    cases leap : isLeapYear y <;> simp [daysInMonth, leap]
  · by_cases short : m = 4 ∨ m = 6 ∨ m = 9 ∨ m = 11
    · exact .inr (.inr (.inl ⟨short, by rw [daysInMonth, if_neg feb, if_pos short]⟩))
    · have long : daysInMonth y m = 31 := by rw [daysInMonth, if_neg feb, if_neg short]
      omega

/-- A day stays below the first day of the next month. -/
theorem dayOfMarchYear_lt_next {d : Date} (h : d.isValid = true) :
    monthStart d.marchMonth ≤ d.dayOfMarchYear ∧
      d.dayOfMarchYear < monthStart (d.marchMonth + 1) := by
  obtain ⟨year, month, day⟩ := d
  obtain ⟨hm, hm', hd, hd'⟩ := isValid_iff.mp h
  simp only at hm hm' hd hd'
  have months : month = 1 ∨ month = 2 ∨ month = 3 ∨ month = 4 ∨ month = 5 ∨ month = 6 ∨
      month = 7 ∨ month = 8 ∨ month = 9 ∨ month = 10 ∨ month = 11 ∨ month = 12 := by omega
  have len := daysInMonth_cases year month
  unfold dayOfMarchYear marchMonth monthStart
  rcases months with m | m | m | m | m | m | m | m | m | m | m | m <;> subst m <;>
    simp only <;> split <;> omega

/-- A day stays below the first of March of the next year. -/
theorem dayOfMarchYear_lt_year {d : Date} (h : d.isValid = true) :
    marchYearStart d.marchYear + d.dayOfMarchYear < marchYearStart (d.marchYear + 1) := by
  obtain ⟨year, month, day⟩ := d
  obtain ⟨hm, hm', hd, hd'⟩ := isValid_iff.mp h
  have next := (dayOfMarchYear_lt_next h).2
  simp only at hm hm' hd hd'
  by_cases feb : month = 2
  · -- the last month from March is the only one that a leap day makes longer
    subst feb
    have len : daysInMonth year 2 = 28 ∨
        (daysInMonth year 2 = 29 ∧ year % 4 = 0 ∧ (year % 100 ≠ 0 ∨ year % 400 = 0)) := by
      rcases daysInMonth_cases year 2 with ⟨_, leap, len⟩ | ⟨_, _, len⟩ | h | h
      · exact .inr ⟨len, isLeapYear_iff.mp leap⟩
      · exact .inl len
      · omega
      · omega
    clear next
    simp only [marchYearStart, dayOfMarchYear, marchYear, marchMonth, monthStart]
    rw [if_pos (by decide), if_pos (by decide)]
    omega
  · simp only [marchYearStart, marchYear, marchMonth, monthStart] at next ⊢
    split at next <;> split <;> omega

theorem marchYearStart_mono {y z : Int} (h : y ≤ z) : marchYearStart y ≤ marchYearStart z := by
  unfold marchYearStart; omega

theorem monthStart_mono {m n : Int} (h : m ≤ n) : monthStart m ≤ monthStart n := by
  unfold monthStart; omega

theorem dayOfMarchYear_nonneg {d : Date} (h : d.isValid = true) : 0 ≤ d.dayOfMarchYear := by
  have low := (dayOfMarchYear_lt_next h).1
  have start : 0 ≤ monthStart d.marchMonth := by
    have := (isValid_iff.mp h).1
    unfold monthStart marchMonth
    split <;> omega
  omega

/-! ## The order of days -/

/-- The order of dates does not depend on where a year is taken to start. -/
theorem before_march {a b : Date} (ha : a.isValid = true) (hb : b.isValid = true)
    (h : a.Before b) : a.marchYear < b.marchYear ∨ (a.marchYear = b.marchYear ∧
      (a.marchMonth < b.marchMonth ∨ (a.marchMonth = b.marchMonth ∧ a.day < b.day))) := by
  obtain ⟨ma, ma', _⟩ := isValid_iff.mp ha
  obtain ⟨mb, mb', _⟩ := isValid_iff.mp hb
  unfold Before at h
  unfold marchYear marchMonth
  split <;> split <;> omega

theorem toDays_lt_of_before {a b : Date} (ha : a.isValid = true) (hb : b.isValid = true)
    (h : a.Before b) : a.toDays < b.toDays := by
  rw [toDays_eq, toDays_eq]
  rcases before_march ha hb h with year | ⟨year, month | ⟨month, day⟩⟩
  · have next := dayOfMarchYear_lt_year ha
    have mono := marchYearStart_mono (show a.marchYear + 1 ≤ b.marchYear by omega)
    have low := dayOfMarchYear_nonneg hb
    omega
  · have next := (dayOfMarchYear_lt_next ha).2
    have mono := monthStart_mono (show a.marchMonth + 1 ≤ b.marchMonth by omega)
    have low := (dayOfMarchYear_lt_next hb).1
    rw [year]
    omega
  · unfold dayOfMarchYear
    rw [year, month]
    omega

theorem ofDays_inj {m n : Int} (h : ofDays m = ofDays n) : m = n := by
  have := congrArg toDays h
  rwa [toDays_ofDays, toDays_ofDays] at this

theorem ofDays_before_iff {m n : Int} : (ofDays m).Before (ofDays n) ↔ m < n := by
  constructor
  · intro h
    have := toDays_lt_of_before (isValid_ofDays m) (isValid_ofDays n) h
    rwa [toDays_ofDays, toDays_ofDays] at this
  · intro h
    rcases before_trichotomy (ofDays m) (ofDays n) with before | same | after
    · exact before
    · have := ofDays_inj same
      omega
    · have := toDays_lt_of_before (isValid_ofDays n) (isValid_ofDays m) after
      rw [toDays_ofDays, toDays_ofDays] at this
      omega

end Date
end TextCatalog
