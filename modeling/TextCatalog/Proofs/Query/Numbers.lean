import TextCatalog.Proofs.Query.Position
import TextCatalog.Proofs.Text.Folding
import TextCatalog.Proofs.Text.Padded

/-!
# TextCatalog.Proofs.Query.Numbers

Which numbers tokens name, and which tokens name none.

* `stem_cases` — a stem is the whole word, or what stands before an ordinal ending.
* `numberOf?_eq` — the digits that a token begins with are those of its stem in lower case.
* `numberOf?_digits`, `numberOf?_word_iff` — so digits decide alone where there are some, and the
  table of words where there are none.
* `numberOf?_numeral` — a numeral names its number.
* `numberOf?_exact` — both together, for every token.
-/

namespace TextCatalog
namespace Query

open Text

variable {t ds rest word : List Char} {n : Nat}

/-! ## Stems -/

theorem eq_append_of_dropEnding? {ending : String} {s : List Char}
    (h : dropEnding? ending word = some s) : word = s ++ ending.toList := by
  unfold dropEnding? at h
  split at h
  · rename_i ends
    obtain ⟨before, rfl⟩ := ends
    obtain rfl := Option.some.inj h
    rw [List.length_append, ← String.length_toList, Nat.add_sub_cancel, List.take_left]
  · cases h

theorem stem_cases (word : List Char) :
    stem word = word ∨ ∃ e ∈ ordinalEndings, word = stem word ++ e.toList := by
  unfold stem
  cases found : ordinalEndings.findSome? fun e => dropEnding? e word with
  | none => exact .inl rfl
  | some s =>
    obtain ⟨e, known, dropped⟩ := List.exists_of_findSome?_eq_some found
    exact .inr ⟨e, known, eq_append_of_dropEnding? dropped⟩

/-- No ending takes digits away from a word. -/
theorem leadingDigits_stem (word : List Char) : leadingDigits (stem word) = leadingDigits word := by
  rcases stem_cases word with whole | ⟨e, known, split⟩
  · rw [whole]
  · conv_rhs => rw [split, leadingDigits_ordinal known]

theorem numberOf?_eq (t : List Char) : numberOf? t =
    (count? (leadingDigits t)).or (lookup numberWords (stem (lowercase t))) := by
  rw [numberOf?, leadingDigits_stem, leadingDigits_lowercase]

/-! ## Words -/

theorem leadingDigits_numberWord : ∀ entry ∈ numberWords, leadingDigits entry.1.toList = [] := by
  decide

/-- No word for a number ends like an ordinal. -/
theorem stem_numberWord : ∀ entry ∈ numberWords, stem entry.1.toList = entry.1.toList := by
  decide

theorem lookup_eq_some_iff {table : List (String × Nat)}
    (distinct : ∀ a ∈ table, ∀ b ∈ table, a.1 = b.1 → a = b) :
    lookup table word = some n ↔ ∃ w, (w, n) ∈ table ∧ word = w.toList := by
  constructor
  · intro found
    obtain ⟨⟨w, m⟩, first, rfl⟩ := Option.map_eq_some_iff.mp found
    have same := List.find?_some first
    exact ⟨w, List.mem_of_find?_eq_some first, (eq_of_beq same).symm⟩
  · rintro ⟨w, mem, rfl⟩
    cases first : table.find? fun entry => entry.1.toList == w.toList with
    | none =>
      have other := List.find?_eq_none.mp first (w, n) mem
      exact absurd (beq_self_eq_true w.toList) other
    | some entry =>
      have same := List.find?_some first
      have equal := distinct entry (List.mem_of_find?_eq_some first) (w, n) mem
        (String.toList_inj.mp (eq_of_beq same))
      rw [lookup, first, equal]
      rfl

theorem numberWords_distinct : ∀ a ∈ numberWords, ∀ b ∈ numberWords, a.1 = b.1 → a = b := by
  decide

theorem stem_eq_numberWord_iff {w : String} (known : (w, n) ∈ numberWords) :
    stem word = w.toList ↔
      word = w.toList ∨ ∃ e ∈ ordinalEndings, word = w.toList ++ e.toList := by
  constructor
  · intro same
    rcases stem_cases word with whole | ⟨e, ending, split⟩
    · exact .inl (whole.symm.trans same)
    · exact .inr ⟨e, ending, same ▸ split⟩
  · rintro (rfl | ⟨e, ending, rfl⟩)
    · exact stem_numberWord (w, n) known
    · exact stem_ordinal ending w.toList

/-! ## Tokens -/

theorem leadingDigits_eq_nil (h : ∀ c ∈ t.head?, c.isDigit = false) : leadingDigits t = [] :=
  @leadingDigits_append_of_head [] t (fun _ mem => by cases mem) h

/-- Digits decide alone, whatever follows them: a number that is no count is not looked up. -/
theorem numberOf?_digits (ne : ds ≠ []) (all : ∀ c ∈ ds, c.isDigit = true)
    (ends : ∀ c ∈ rest.head?, c.isDigit = false) : numberOf? (ds ++ rest) = count? ds := by
  have digits : leadingDigits (ds ++ rest) = ds := leadingDigits_append_of_head all ends
  have noWord : lookup numberWords (stem (lowercase (ds ++ rest))) = none := by
    refine Option.eq_none_iff_forall_ne_some.mpr fun m found => ?_
    obtain ⟨w, known, same⟩ := (lookup_eq_some_iff numberWords_distinct).mp found
    have none_left := leadingDigits_numberWord (w, m) known
    rw [← same, leadingDigits_stem, leadingDigits_lowercase, digits] at none_left
    exact ne none_left
  rw [numberOf?_eq, digits, noWord, Option.or_none]

theorem numberOf?_word_iff (h : ∀ c ∈ t.head?, c.isDigit = false) :
    numberOf? t = some n ↔ ∃ w, (w, n) ∈ numberWords ∧
      (lowercase t = w.toList ∨ ∃ e ∈ ordinalEndings, lowercase t = w.toList ++ e.toList) := by
  rw [numberOf?_eq, leadingDigits_eq_nil h]
  show lookup numberWords _ = some n ↔ _
  rw [lookup_eq_some_iff numberWords_distinct]
  exact exists_congr fun w => and_congr_right fun known => stem_eq_numberWord_iff known

theorem count?_of_digits (ne : ds ≠ []) :
    count? ds = if numeralValue ds < 2 ^ 64 then some (numeralValue ds) else none := by
  cases ds with
  | nil => exact absurd rfl ne
  | cons d ds => rfl

theorem isAlpha_toLower_of_digit {c : Char} (h : c.isDigit = true) :
    c.toLower.isAlpha = false := by
  have all : ∀ n < 128, (Char.ofNat n).isDigit = true → (Char.ofNat n).toLower.isAlpha = false := by
    decide
  exact forall_ascii (P := fun c => c.isDigit = true → c.toLower.isAlpha = false) all
    (isLowered_of_digit h).1 h

theorem isDigit_of_ending {e : String} (known : e ∈ ordinalEndings)
    (same : rest.map asciiLower = e.toList) : ∀ c ∈ rest.head?, c.isDigit = false := by
  have letters : ∀ e ∈ ordinalEndings, e.toList.head?.all Char.isAlpha = true := by decide
  intro c first
  have lower : c.toLower ∈ e.toList.head? := by
    rw [← same, List.head?_map]
    exact Option.mem_map_of_mem asciiLower first
  exact Bool.eq_false_iff.mpr fun digit =>
    Bool.eq_false_iff.mp (isAlpha_toLower_of_digit digit)
      ((Option.all_eq_true _ _).mp (letters e known) _ lower)

theorem numberOf?_numeral_append (h : n < 2 ^ 64) (ends : ∀ c ∈ rest.head?, c.isDigit = false) :
    numberOf? (numeral n ++ rest) = some n := by
  rw [numberOf?_digits (numeral_ne_nil n) numeral_isDigit ends, count?_numeral h]

theorem numberOf?_numeral (n : Fin counts) : numberOf? (numeral n) = some n.val := by
  have ends : ∀ c ∈ ([] : List Char).head?, c.isDigit = false := fun _ first => by cases first
  have alone := numberOf?_numeral_append n.isLt ends
  rwa [List.append_nil] at alone

/--
The number that a token names: the value of the digits that it begins with, if it is a number of 64
bits, and where it begins with none the number of the word that it is in lower case, with an
ordinal ending or without.
-/
theorem numberOf?_exact :
    (∀ ds rest : List Char, ds ≠ [] → (∀ c ∈ ds, c.isDigit = true) →
      (∀ c ∈ rest.head?, c.isDigit = false) → numberOf? (ds ++ rest) =
        if numeralValue ds < 2 ^ 64 then some (numeralValue ds) else none) ∧
    (∀ (t : List Char) (n : Nat), (∀ c ∈ t.head?, c.isDigit = false) →
      (numberOf? t = some n ↔ ∃ w, (w, n) ∈ numberWords ∧
        (lowercase t = w.toList ∨ ∃ e ∈ ordinalEndings, lowercase t = w.toList ++ e.toList))) ∧
    ∀ n < 2 ^ 64, numberOf? (numeral n) = some n ∧
      ∀ e ∈ ordinalEndings, ∀ written : List Char, written.map asciiLower = e.toList →
        numberOf? (numeral n ++ written) = some n := by
  refine ⟨fun ds rest ne all ends => ?_, fun t n h => numberOf?_word_iff h,
    fun n h => ⟨numberOf?_numeral ⟨n, h⟩, fun e known written same => ?_⟩⟩
  · rw [numberOf?_digits ne all ends, count?_of_digits ne]
  · exact numberOf?_numeral_append h (isDigit_of_ending known same)

/-- Zeros in front, an ending that a mark follows, a word with an ending and the last count. -/
theorem numberOf?_exact_each :
    numberOf? "007TH\u0301".toList = some 7 ∧ numberOf? "SEVENth".toList = some 7 ∧
      numberOf? "18446744073709551615nD".toList = some 18446744073709551615 := by
  refine ⟨?_, ?_, ?_⟩
  · have digits := numberOf?_exact.1 ['0', '0', '7'] ['T', 'H', '\u0301'] (by decide)
      (List.all_eq_true.mp (by decide)) (by rintro c ⟨⟩; rfl)
    exact digits.trans (by decide)
  · exact (numberOf?_exact.2.1 _ 7 (by rintro c ⟨⟩; rfl)).mpr
      ⟨"seven", by decide, .inr ⟨"th", by decide, by decide⟩⟩
  · exact (numberOf?_exact.2.2 18446744073709551615 (by decide)).2 "nd" (by decide) ['n', 'D']
      (by decide)

end Query
end TextCatalog
