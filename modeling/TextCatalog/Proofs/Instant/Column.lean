import TextCatalog.Instant.Printer
import TextCatalog.Instant.Reader
import TextCatalog.Proofs.Instant.Calendar
import TextCatalog.Proofs.Text.Padded
import TextCatalog.Proofs.Text.Utf8

/-!
# TextCatalog.Proofs.Instant.Column

The text of an instant in a column, for the years that are written with four digits.

* `columnChars_eq` — the text is a row of fields of fixed width.
* `ofStrictText_columnText` — it reads back as the instant.
* `ofStrictText_columnText_far` — the text of any other year begins with a sign and is not read.
* `columnText_lt_iff` — its order is that of the instants, leap seconds included.
-/

namespace TextCatalog
namespace Instant

open Text

def HasPlainYear (t : Instant) : Prop := 0 ≤ t.date.year ∧ t.date.year ≤ 9999

instance (t : Instant) : Decidable t.HasPlainYear :=
  inferInstanceAs (Decidable (0 ≤ t.date.year ∧ t.date.year ≤ 9999))

/-! ## Fields -/

/-- The second as it is written, 60 for a leap second. -/
def writtenSecond (t : Instant) : Nat := t.secondOfDay % 60 + if t.isLeap then 1 else 0

theorem secondOfDay_lt (t : Instant) : t.secondOfDay < 86400 := by
  unfold secondOfDay secondsPerDay; omega

theorem fraction_lt (t : Instant) : t.fraction < 10 ^ 9 := Nat.mod_lt _ (by decide)

/-- A leap second stands at the end of a minute, and its nanoseconds go on from a whole second. -/
theorem leap_cases (t : Instant) :
    (t.isLeap = false ∧ t.nanos = t.fraction) ∨
      (t.isLeap = true ∧ t.nanos = t.fraction + nanosPerSecond ∧ t.secondOfDay % 60 = 59) := by
  have lt := t.nanos_lt
  by_cases h : nanosPerSecond ≤ t.nanos
  · have leap := t.leap h
    refine .inr ⟨by rw [isLeap, decide_eq_true_iff]; exact h, ?_, ?_⟩
    · unfold fraction nanosPerSecond at *; omega
    · unfold secondOfDay secondsPerDay; omega
  · refine .inl ⟨by rw [isLeap, decide_eq_false_iff_not]; exact h, ?_⟩
    unfold fraction nanosPerSecond at *; omega

theorem writtenSecond_le (t : Instant) : t.writtenSecond ≤ 60 := by
  unfold writtenSecond
  split <;> omega

theorem date_valid (t : Instant) : t.date.isValid = true := Date.isValid_ofDays _

theorem date_bounds (t : Instant) :
    1 ≤ t.date.month ∧ t.date.month ≤ 12 ∧ 1 ≤ t.date.day ∧ t.date.day ≤ 31 := by
  obtain ⟨first, month, first', day⟩ := Date.isValid_iff.mp t.date_valid
  have := Date.daysInMonth_cases t.date.year t.date.month
  omega

/-- The first and the last year of all instants. -/
theorem year_bounds (t : Instant) : -262143 ≤ t.date.year ∧ t.date.year ≤ 262142 := by
  have first : Date.ofDays (-96465292) = ⟨-262143, 1, 1⟩ := by decide
  have last : Date.ofDays 95026236 = ⟨262142, 12, 31⟩ := by decide
  have range := t.inRange
  have low : ¬t.date.Before (Date.ofDays (-96465292)) := by
    rw [date, Date.ofDays_before_iff, secondsPerDay]
    omega
  have high : ¬(Date.ofDays 95026236).Before t.date := by
    rw [date, Date.ofDays_before_iff, secondsPerDay]
    omega
  rw [first, Date.Before] at low
  rw [last, Date.Before] at high
  simp only at low high
  omega

theorem columnChars_eq {t : Instant} (h : t.HasPlainYear) :
    textWith columnFraction t =
      padded 4 t.date.year.toNat ++ (['-'] ++ (padded 2 t.date.month ++ (['-'] ++
        (padded 2 t.date.day ++ (['T'] ++ (padded 2 (t.secondOfDay / 3600) ++ ([':'] ++
          (padded 2 (t.secondOfDay / 60 % 60) ++ ([':'] ++ (padded 2 t.writtenSecond ++ (['.'] ++
            (padded 9 t.fraction ++ (['Z'] ++ []))))))))))))) := by
  have year : yearText t.date.year = padded 4 t.date.year.toNat := if_pos h
  simp only [textWith, dateText, timeText, columnFraction, year, writtenSecond,
    List.append_assoc, List.cons_append, List.nil_append]

/-! ## Reading -/

theorem bind_of_read {m : Type → Type} [Monad m] [LawfulMonad m] {α β : Type}
    {r : StateT (List Char) m α} {f : α → StateT (List Char) m β} {a : α} {s rest : List Char}
    (h : r s = pure (a, rest)) : (r >>= f) s = f a rest := by
  show (r s >>= fun p => f p.1 p.2) = _
  rw [h, pure_bind]

theorem bind_of_error {α β : Type} {r : Scanner α} {f : α → Scanner β} {flaw : Flaw}
    {s : List Char} (h : r s = .error flaw) : (r >>= f) s = .error flaw := by
  show (r s >>= fun p => f p.1 p.2) = _
  rw [h]
  rfl

theorem oneCharOf_cons {accepted : List Char} {c : Char} (h : accepted.contains c = true)
    (rest : List Char) : oneCharOf accepted (c :: rest) = some (c, rest) := if_pos h

theorem mark_cons (c : Char) (rest : List Char) : mark c (c :: rest) = some ((), rest) := by
  have h : [c].contains c = true := by simp
  exact bind_of_read (oneCharOf_cons h rest)

section

variable {α : Type} {r : Reader α} {bytes : Nat} {a : α} {s rest : List Char}

theorem scan_of_some (enough : bytes ≤ s.length) (h : r s = some (a, rest)) :
    scan bytes r s = .ok (a, rest) := by
  have := Utf8.length_le_size s
  rw [scan, if_neg (by omega), h]

theorem scan_of_none (enough : bytes ≤ s.length) (h : r s = none) :
    scan bytes r s = .error .badCharacter := by
  have := Utf8.length_le_size s
  rw [scan, if_neg (by omega), h]

end

theorem scan_cons {α : Type} {r : Reader α} {a : α} {c : Char} {s rest : List Char}
    (h : r (c :: s) = some (a, rest)) : scan 1 r (c :: s) = .ok (a, rest) :=
  scan_of_some (Nat.succ_le_succ (Nat.zero_le _)) h

theorem check_of_true {holds : Bool} (h : holds = true) (s : List Char) :
    check holds s = .ok ((), s) := if_pos h

theorem field_padded {w n first last : Nat} (h : n < 10 ^ (w + 1)) (low : first ≤ n)
    (high : n ≤ last) (rest : List Char) :
    field (w + 1) first last (padded (w + 1) n ++ rest) = .ok (n, rest) := by
  have enough : w + 1 ≤ (padded (w + 1) n ++ rest).length := by
    rw [List.length_append, padded_length h]
    exact Nat.le_add_right _ _
  rw [field, bind_of_read (scan_of_some enough (exactly_padded h rest)),
    bind_of_read (check_of_true (by simp [low, high]) rest)]
  rfl

/-- A fraction of fewer digits than nine counts in greater parts of a second. -/
theorem nanoseconds_padded {w n : Nat} (h : n < 10 ^ (w + 1)) (fits : w < 9)
    (rest : List Char) (hr : ∀ c ∈ rest.head?, c.isDigit = false) :
    nanoseconds (padded (w + 1) n ++ rest) = some (n * 10 ^ (8 - w), rest) := by
  have len : (padded (w + 1) n).length = w + 1 := padded_length h
  have digits : leadingDigits (padded (w + 1) n ++ rest) = padded (w + 1) n :=
    leadingDigits_append_of_head padded_isDigit hr
  unfold nanoseconds
  simp only [digits]
  split
  · rename_i none_left
    rw [none_left] at len
    cases len
  · rename_i d ds some_left
    rw [← some_left, List.take_of_length_le (by omega), numeralValue_padded, len,
      List.drop_append_of_le_length (by omega), List.drop_of_length_le (by omega),
      show 9 - (w + 1) = 8 - w by omega]
    rfl

theorem fractionOfSecond_padded {w n : Nat} (h : n < 10 ^ (w + 1)) (fits : w < 9)
    (rest : List Char) (hr : ∀ c ∈ rest.head?, c.isDigit = false) :
    fractionOfSecond ('.' :: (padded (w + 1) n ++ rest)) = .ok (n * 10 ^ (8 - w), rest) := by
  refine scan_of_some ?_ (nanoseconds_padded h fits rest hr)
  rw [List.length_append, padded_length h]
  omega

/-- The numbers that are read from the text of an instant. -/
def written (t : Instant) : Written :=
  ⟨t.date, t.secondOfDay / 3600, t.secondOfDay / 60 % 60, t.writtenSecond, t.fraction, 0⟩

theorem strict_columnChars {t : Instant} (h : t.HasPlainYear) :
    strict (textWith columnFraction t) = .ok (t.written, []) := by
  have hs := t.secondOfDay_lt
  have hw := t.writtenSecond_le
  obtain ⟨firstMonth, lastMonth, firstDay, lastDay⟩ := t.date_bounds
  have year : (t.date.year.toNat : Int) = t.date.year := Int.toNat_of_nonneg h.1
  have hy : t.date.year.toNat < 10 ^ 4 := by have := h.2; omega
  have month : t.date.month < 10 ^ 2 := by omega
  have day : t.date.day < 10 ^ 2 := by omega
  have hour : t.secondOfDay / 3600 < 10 ^ 2 := by omega
  have minute : t.secondOfDay / 60 % 60 < 10 ^ 2 := by omega
  have second : t.writtenSecond < 10 ^ 2 := by omega
  have separator : separatorOfDate.contains 'T' = true := by decide
  have zulu : ∀ c ∈ ['Z'].head?, c.isDigit = false := by rintro c ⟨⟩; rfl
  have zone : zone (scan 1 (mark ':')) ['Z'] = .ok (0, []) := rfl
  rw [columnChars_eq h]
  simp only [List.cons_append, List.nil_append]
  rw [strict, bind_of_read (field_padded (w := 3) hy (Nat.zero_le _) (by omega) _),
    bind_of_read (scan_cons (mark_cons '-' _)),
    bind_of_read (field_padded (w := 1) month firstMonth lastMonth _),
    bind_of_read (scan_cons (mark_cons '-' _)),
    bind_of_read (field_padded (w := 1) day firstDay lastDay _),
    bind_of_read (scan_cons (oneCharOf_cons separator _)),
    bind_of_read (field_padded (w := 1) hour (Nat.zero_le _) (by omega) _),
    bind_of_read (scan_cons (mark_cons ':' _)),
    bind_of_read (field_padded (w := 1) minute (Nat.zero_le _) (by omega) _),
    bind_of_read (scan_cons (mark_cons ':' _)),
    bind_of_read (field_padded (w := 1) second (Nat.zero_le _) hw _),
    bind_of_read (fractionOfSecond_padded (w := 8) t.fraction_lt (by decide) ['Z'] zulu),
    bind_of_read zone]
  show Except.ok (_, _) = _
  rw [written, year, Nat.sub_self, Nat.pow_zero, Nat.mul_one]

theorem written_isValid (t : Instant) : t.written.isValid = true := by
  have hs := t.secondOfDay_lt
  have hw := t.writtenSecond_le
  have year : Written.yearInRange t.date.year = true := by
    have := t.year_bounds
    simp only [Written.yearInRange, Bool.and_eq_true, decide_eq_true_eq]
    omega
  have hour : t.secondOfDay / 3600 < 24 := by omega
  have minute : t.secondOfDay / 60 % 60 < 60 := by omega
  simp [Written.isValid, Written.isWithinDay, written, t.date_valid, year, hour, minute, hw]

theorem written_secondAndNanos (t : Instant) :
    t.written.secondAndNanos = (t.secondOfDay % 60, t.nanos) := by
  unfold Written.secondAndNanos written writtenSecond
  rcases t.leap_cases with ⟨plain, nanos⟩ | ⟨leap, nanos, last⟩
  · rw [plain, nanos, if_neg Bool.false_ne_true, Nat.add_zero,
      if_neg (show ¬t.secondOfDay % 60 = 60 by omega)]
  · rw [leap, nanos, last]
    rfl

theorem written_toInstant? (t : Instant) : t.written.toInstant? = some t := by
  have days : t.written.date.toDays = t.seconds / 86400 := Date.toDays_ofDays _
  have seconds : t.seconds / 86400 * 86400 + (t.secondOfDay / 3600 : Nat) * 3600 +
      (t.secondOfDay / 60 % 60 : Nat) * 60 + (t.secondOfDay % 60 : Nat) - 0 = t.seconds := by
    have : (t.secondOfDay : Int) = t.seconds % 86400 := by
      unfold secondOfDay secondsPerDay; omega
    omega
  rw [Written.toInstant?, if_pos t.written_isValid, written_secondAndNanos]
  simp only [days]
  show ofUnix? (_ / 86400 * 86400 + (t.secondOfDay / 3600 : Nat) * 3600 +
    (t.secondOfDay / 60 % 60 : Nat) * 60 + (t.secondOfDay % 60 : Nat) - 0) t.nanos = _
  rw [seconds, ofUnix?_self]

theorem ofStrictText_columnText {t : Instant} (h : t.HasPlainYear) :
    ofStrictText t.columnText = .ok t := by
  rw [ofStrictText, columnText, String.toList_ofList, strict_columnChars h]
  simp only [t.written_toInstant?]

theorem exactly_of_head {width : Nat} {c : Char} (h : c.isDigit = false) (rest : List Char) :
    exactly (width + 1) (c :: rest) = none := by
  simp [exactly, leadingDigits, h]

theorem le_padded_length (w n : Nat) : w ≤ (padded w n).length := by
  rw [padded, List.length_append, List.length_replicate]
  omega

theorem yearText_far {y : Int} (far : ¬(0 ≤ y ∧ y ≤ 9999)) :
    ∃ c rest, yearText y = c :: rest ∧ c.isDigit = false ∧ 4 ≤ rest.length := by
  unfold yearText
  rw [if_neg far]
  split
  · exact ⟨'-', _, rfl, rfl, le_padded_length _ _⟩
  · exact ⟨'+', _, rfl, rfl, le_padded_length _ _⟩

theorem ofStrictText_columnText_far {t : Instant} (far : ¬t.HasPlainYear) :
    ofStrictText t.columnText = .error .badCharacter := by
  obtain ⟨c, rest, year, sign, long⟩ := yearText_far far
  have refused : strict (textWith columnFraction t) = .error .badCharacter := by
    simp only [textWith, dateText, year, List.cons_append]
    refine bind_of_error (bind_of_error (scan_of_none ?_ (exactly_of_head sign _)))
    simp only [List.length_cons, List.length_append]
    omega
  rw [ofStrictText, columnText, String.toList_ofList, refused]

/-! ## Order -/

theorem date_eq_iff {s t : Instant} : s.date = t.date ↔ s.seconds / 86400 = t.seconds / 86400 :=
  ⟨Date.ofDays_inj, congrArg Date.ofDays⟩

/-- The fields of the date together compare as the number of the day. -/
theorem dateFields_lt_iff {s t : Instant} (hs : s.HasPlainYear) (ht : t.HasPlainYear) (p : Prop) :
    (s.date.year.toNat < t.date.year.toNat ∨ (s.date.year.toNat = t.date.year.toNat ∧
      (s.date.month < t.date.month ∨ (s.date.month = t.date.month ∧
        (s.date.day < t.date.day ∨ (s.date.day = t.date.day ∧ p)))))) ↔
      s.seconds / 86400 < t.seconds / 86400 ∨ (s.seconds / 86400 = t.seconds / 86400 ∧ p) := by
  have before : s.date.Before t.date ↔ s.seconds / 86400 < t.seconds / 86400 :=
    Date.ofDays_before_iff
  have same : s.date = t.date ↔ s.date.year = t.date.year ∧ s.date.month = t.date.month ∧
      s.date.day = t.date.day := by
    cases s.date
    cases t.date
    simp
  rw [← before, ← date_eq_iff, same]
  unfold Date.Before
  unfold HasPlainYear at hs ht
  by_cases hp : p <;> simp only [hp, and_true, and_false, or_false] <;> omega

/-- The fields of the time together compare as the second of the day and the nanoseconds. -/
theorem timeFields_lt_iff (s t : Instant) :
    (s.secondOfDay / 3600 < t.secondOfDay / 3600 ∨ (s.secondOfDay / 3600 = t.secondOfDay / 3600 ∧
      (s.secondOfDay / 60 % 60 < t.secondOfDay / 60 % 60 ∨
        (s.secondOfDay / 60 % 60 = t.secondOfDay / 60 % 60 ∧
          (s.writtenSecond < t.writtenSecond ∨ (s.writtenSecond = t.writtenSecond ∧
            s.fraction < t.fraction)))))) ↔
      s.secondOfDay < t.secondOfDay ∨ (s.secondOfDay = t.secondOfDay ∧ s.nanos < t.nanos) := by
  have sf := s.fraction_lt
  have tf := t.fraction_lt
  unfold writtenSecond
  -- a leap second comes after all of second 59 and before the next minute
  rcases s.leap_cases with ⟨sl, sn⟩ | ⟨sl, sn, slast⟩ <;>
    rcases t.leap_cases with ⟨tl, tn⟩ | ⟨tl, tn, tlast⟩ <;>
    simp only [sl, tl, sn, tn, nanosPerSecond, if_true, Bool.false_eq_true, if_false] <;> omega

theorem columnText_lt_iff {s t : Instant} (hs : s.HasPlainYear) (ht : t.HasPlainYear) :
    s.columnText < t.columnText ↔ s < t := by
  have sd := s.date_bounds
  have td := t.date_bounds
  have ss := s.secondOfDay_lt
  have ts := t.secondOfDay_lt
  have sw := s.writtenSecond_le
  have tw := t.writtenSecond_le
  have sy : s.date.year.toNat < 10 ^ 4 := by have := hs.2; omega
  have ty : t.date.year.toNat < 10 ^ 4 := by have := ht.2; omega
  show (String.ofList _).toList < (String.ofList _).toList ↔ _
  rw [String.toList_ofList, String.toList_ofList, columnChars_eq hs, columnChars_eq ht,
    field_lt (w := 3) sy ty,
    field_lt (w := 1) (show s.date.month < 10 ^ 2 by omega) (show t.date.month < 10 ^ 2 by omega),
    field_lt (w := 1) (show s.date.day < 10 ^ 2 by omega) (show t.date.day < 10 ^ 2 by omega),
    field_lt (w := 1) (show s.secondOfDay / 3600 < 10 ^ 2 by omega)
      (show t.secondOfDay / 3600 < 10 ^ 2 by omega),
    field_lt (w := 1) (show s.secondOfDay / 60 % 60 < 10 ^ 2 by omega)
      (show t.secondOfDay / 60 % 60 < 10 ^ 2 by omega),
    field_lt (w := 1) (show s.writtenSecond < 10 ^ 2 by omega)
      (show t.writtenSecond < 10 ^ 2 by omega),
    field_lt (w := 8) s.fraction_lt t.fraction_lt, dateFields_lt_iff hs ht]
  have none_left : (s.fraction = t.fraction ∧ ([] : List Char) < []) = False := by simp
  rw [none_left, or_false, timeFields_lt_iff, lt_iff]
  unfold secondOfDay secondsPerDay
  omega

end Instant
end TextCatalog
