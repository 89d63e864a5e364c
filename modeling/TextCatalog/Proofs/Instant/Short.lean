import TextCatalog.Proofs.Instant.Column
import TextCatalog.Proofs.Text.Classes

/-!
# TextCatalog.Proofs.Instant.Short

The short text of an instant is read back, whatever its year and however many digits its fraction
has.

* `upTo_padded`, `signedYear_yearText` — numbers of at most so many digits, and years of any size.
* `fractionOfSecond_short` — a fraction with the fewest digits that are exact.
* `ofLooseText?_shortText` — the whole text.
-/

namespace TextCatalog
namespace Instant

open Text

/-! ## Numbers -/

theorem isBlank_of_isDigit {c : Char} (h : c.isDigit = true) : isBlank c = false :=
  isBlank_of_isWord (isWord_of_digit h)

theorem trimStart_of_head {c : Char} (h : isBlank c = false) (s : List Char) :
    trimStart (c :: s) = c :: s := by
  simp [trimStart, h]

/-- A number of any width begins with a digit. -/
theorem padded_cons (w n : Nat) : ∃ d ds, padded w n = d :: ds ∧ d.isDigit = true := by
  cases h : padded w n with
  | nil => exact absurd (List.append_eq_nil_iff.mp h).2 (numeral_ne_nil n)
  | cons d ds => exact ⟨d, ds, rfl, padded_isDigit d (h ▸ List.mem_cons_self)⟩

theorem upTo_of_digits {width : Nat} {s ds : List Char} (ne : ds ≠ [])
    (kept : (leadingDigits s).take width = ds) :
    upTo width s = some (numeralValue ds, s.drop ds.length) := by
  unfold upTo
  rw [kept]
  cases ds with
  | nil => exact absurd rfl ne
  | cons d ds => rfl

theorem padded_ne_nil (w n : Nat) : padded w n ≠ [] := by
  obtain ⟨d, ds, same, _⟩ := padded_cons w n
  rw [same]
  exact List.cons_ne_nil d ds

theorem drop_padded (w n : Nat) (rest : List Char) :
    (padded w n ++ rest).drop (padded w n).length = rest := by
  rw [List.drop_append_of_le_length (Nat.le_refl _), List.drop_length, List.nil_append]

theorem upTo_padded {w n : Nat} (h : n < 10 ^ (w + 1)) (rest : List Char) :
    upTo (w + 1) (padded (w + 1) n ++ rest) = some (n, rest) := by
  have len := padded_length h
  have kept : (leadingDigits (padded (w + 1) n ++ rest)).take (w + 1) = padded (w + 1) n := by
    rw [leadingDigits_append padded_isDigit, List.take_append_of_le_length (by omega),
      List.take_of_length_le (by omega)]
  rw [upTo_of_digits (padded_ne_nil _ _) kept, numeralValue_padded, drop_padded]

theorem anyNumber_padded (w n : Nat) {rest : List Char}
    (hr : ∀ c ∈ rest.head?, c.isDigit = false) :
    anyNumber (padded w n ++ rest) = some (n, rest) := by
  have kept : (leadingDigits (padded w n ++ rest)).take (padded w n ++ rest).length =
      padded w n := by
    rw [leadingDigits_append_of_head padded_isDigit hr, List.length_append]
    exact List.take_of_length_le (Nat.le_add_right _ _)
  rw [anyNumber, upTo_of_digits (padded_ne_nil _ _) kept, numeralValue_padded, drop_padded]

theorem signedYear_of_digit {d : Char} (h : d.isDigit = true) (s : List Char) :
    signedYear (d :: s) = (upTo 4 (d :: s)).map fun r => ((r.1 : Int), r.2) := by
  unfold signedYear
  split
  · cases ‹_ = _›
    cases h
  · cases ‹_ = _›
    cases h
  · rfl

theorem signedYear_yearText (y : Int) {rest : List Char}
    (hr : ∀ c ∈ rest.head?, c.isDigit = false) :
    signedYear (yearText y ++ rest) = some (y, rest) := by
  unfold yearText
  split
  · rename_i plain
    obtain ⟨d, ds, same, digit⟩ := padded_cons 4 y.toNat
    have read := upTo_padded (w := 3) (n := y.toNat) (by omega) rest
    rw [same, List.cons_append] at read ⊢
    rw [signedYear_of_digit digit, read, Option.map_some, Int.toNat_of_nonneg plain.1]
  · split
    · rename_i negative
      rw [List.cons_append]
      simp only [signedYear, anyNumber_padded 4 y.natAbs hr, Option.map_some]
      rw [show -(y.natAbs : Int) = y by omega]
    · rename_i positive
      rw [List.cons_append]
      simp only [signedYear, anyNumber_padded 4 y.toNat hr, Option.map_some]
      rw [Int.toNat_of_nonneg (by omega)]

/-! ## Parts of the text -/

theorem skipBlanks_of_head {c : Char} (h : isBlank c = false) (s : List Char) :
    skipBlanks (c :: s) = some ((), c :: s) := by
  rw [skipBlanks, trimStart_of_head h]

theorem loosePair_padded {n : Nat} (h : n < 10 ^ 2) (rest : List Char) :
    loosePair (padded 2 n ++ rest) = some (n, rest) := by
  obtain ⟨d, ds, same, digit⟩ := padded_cons 2 n
  have read := upTo_padded (w := 1) h rest
  rw [same, List.cons_append] at read ⊢
  rw [loosePair, bind_of_read (skipBlanks_of_head (isBlank_of_isDigit digit) _), read]

theorem looseMark_cons {c : Char} (h : isBlank c = false) (rest : List Char) :
    looseMark c (c :: rest) = some ((), rest) := by
  rw [looseMark, bind_of_read (skipBlanks_of_head h _), mark_cons]

theorem toReader_of_ok {α : Type} {r : Scanner α} {a : α} {s rest : List Char}
    (h : r s = .ok (a, rest)) : r.toReader s = some (a, rest) := by
  rw [Scanner.toReader, h]
  rfl

/-- The digits that are left out are zeros. -/
theorem fractionOfSecond_short {n : Nat} (h : n < 10 ^ 9) {rest : List Char}
    (hr : ∀ c ∈ rest.head?, c.isDigit = false ∧ c ≠ '.') :
    fractionOfSecond (shortFraction n ++ rest) = .ok (n, rest) := by
  have digits : ∀ c ∈ rest.head?, c.isDigit = false := fun c mem => (hr c mem).1
  unfold shortFraction
  split
  · subst n
    rw [List.nil_append]
    cases rest with
    | nil => rfl
    | cons c rest =>
      unfold fractionOfSecond
      split
      · rename_i dot
        cases dot
        exact absurd rfl (hr '.' rfl).2
      · rfl
  split
  · rw [List.cons_append, fractionOfSecond_padded (w := 2) (by omega) (by decide) rest digits,
      show n / 1000000 * 10 ^ (8 - 2) = n by omega]
  split
  · rw [List.cons_append, fractionOfSecond_padded (w := 5) (by omega) (by decide) rest digits,
      show n / 1000 * 10 ^ (8 - 5) = n by omega]
  · rw [List.cons_append, fractionOfSecond_padded (w := 8) h (by decide) rest digits,
      Nat.sub_self, Nat.pow_zero, Nat.mul_one]

/-! ## The whole text -/

theorem shortChars_eq (t : Instant) :
    textWith shortFraction t =
      yearText t.date.year ++ '-' :: (padded 2 t.date.month ++ '-' :: (padded 2 t.date.day ++
        'T' :: (padded 2 (t.secondOfDay / 3600) ++ ':' :: (padded 2 (t.secondOfDay / 60 % 60) ++
          ':' :: (padded 2 t.writtenSecond ++ (shortFraction t.fraction ++ ['Z'])))))) := by
  simp only [textWith, dateText, timeText, writtenSecond, List.append_assoc, List.cons_append]

theorem yearText_cons (y : Int) : ∃ c s, yearText y = c :: s ∧ isBlank c = false := by
  unfold yearText
  split
  · obtain ⟨d, ds, same, digit⟩ := padded_cons 4 y.toNat
    exact ⟨d, ds, same, isBlank_of_isDigit digit⟩
  · split
    · exact ⟨'-', _, rfl, by decide⟩
    · exact ⟨'+', _, rfl, by decide⟩

theorem loose_shortChars (t : Instant) :
    loose (textWith shortFraction t) = some (t.written, []) := by
  have hs := t.secondOfDay_lt
  have hw := t.writtenSecond_le
  have hd := t.date_bounds
  have hyphen : isBlank '-' = false := by decide
  have colon : isBlank ':' = false := by decide
  have separator : separatorOfDate.contains 'T' = true := by decide
  have year : ∀ s, ∀ c ∈ ('-' :: s).head?, c.isDigit = false := by rintro s c ⟨⟩; rfl
  have zulu : ∀ c ∈ ['Z'].head?, c.isDigit = false ∧ c ≠ '.' := by rintro c ⟨⟩; decide
  have zone : looseZone ['Z'] = some (0, []) := rfl
  have start : skipBlanks (textWith shortFraction t) = some ((), textWith shortFraction t) := by
    obtain ⟨c, s, same, ink⟩ := yearText_cons t.date.year
    rw [shortChars_eq, same, List.cons_append, skipBlanks_of_head ink]
  rw [loose, bind_of_read start, shortChars_eq, bind_of_read (signedYear_yearText _ (year _)),
    bind_of_read (looseMark_cons hyphen _),
    bind_of_read (loosePair_padded (show t.date.month < 10 ^ 2 by omega) _),
    bind_of_read (looseMark_cons hyphen _),
    bind_of_read (loosePair_padded (show t.date.day < 10 ^ 2 by omega) _),
    bind_of_read (oneCharOf_cons separator _),
    bind_of_read (loosePair_padded (show t.secondOfDay / 3600 < 10 ^ 2 by omega) _),
    bind_of_read (looseMark_cons colon _),
    bind_of_read (loosePair_padded (show t.secondOfDay / 60 % 60 < 10 ^ 2 by omega) _),
    bind_of_read (looseMark_cons colon _),
    bind_of_read (loosePair_padded (show t.writtenSecond < 10 ^ 2 by omega) _),
    bind_of_read (toReader_of_ok (fractionOfSecond_short t.fraction_lt zulu)),
    bind_of_read (skipBlanks_of_head (c := 'Z') (by decide) []), bind_of_read zone]
  rfl

/-- Every instant is read back from its short text, also far years and leap seconds. -/
theorem ofLooseText?_shortText (t : Instant) : ofLooseText? t.shortText = some t := by
  rw [ofLooseText?, shortText, String.toList_ofList, loose_shortChars]
  show (if trimStart [] = [] then t.written.toInstant? else none) = some t
  rw [if_pos (show trimStart [] = [] from rfl), t.written_toInstant?]

end Instant
end TextCatalog
