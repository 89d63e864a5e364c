import Mathlib.Data.List.Infix
import TextCatalog.Proofs.Query.Phrase
import TextCatalog.Proofs.Text.Context

/-!
# TextCatalog.Proofs.Query.Position

Which letter of a table an ordinal names.

* `HasRank` — the number that an ordinal stands for, of whatever size.
* `stem_ordinal`, `numberOf?_ordinal` — of digits with an ending only the decimal ones that they
  begin with are read.
* `letterAt?_positionOf?` — the letter is the one that has this number in its table, from one on.
-/

namespace TextCatalog
namespace Query

open Text

variable {t digits : List Char} {ending : String} {n : Nat}

/-- A word for an ordinal stands for its place among them, and digits for their value. -/
def HasRank (t : List Char) (n : Nat) : Prop :=
  (∃ w, (w, n) ∈ positionWords ∧ t = w.toList) ∨
    leadingDigits t ≠ [] ∧ numeralValue (leadingDigits t) = n

/-! ## Digits with an ending -/

theorem dropEnding?_append {v w : String} (same : v.toList.length = w.toList.length)
    (t : List Char) : dropEnding? v (t ++ w.toList) = if v = w then some t else none := by
  have suffix : v.toList <:+ t ++ w.toList ↔ v = w := by
    constructor
    · intro ends
      have within := List.suffix_of_suffix_length_le ends (List.suffix_append t w.toList) same.le
      exact String.toList_inj.mp (within.eq_of_length same)
    · rintro rfl
      exact List.suffix_append t v.toList
  unfold dropEnding?
  simp only [suffix]
  split
  · rename_i equal
    rw [equal, List.length_append, String.length_toList, Nat.add_sub_cancel, List.take_left]
  · rfl

theorem stem_ordinal (known : ending ∈ ordinalEndings) (t : List Char) :
    stem (t ++ ending.toList) = t := by
  have lengths : ∀ v ∈ ordinalEndings, ∀ w ∈ ordinalEndings, v.toList.length = w.toList.length := by
    decide
  have each : ∀ v ∈ ordinalEndings,
      dropEnding? v (t ++ ending.toList) = if v = ending then some t else none :=
    fun v mem => dropEnding?_append (lengths v mem ending known) t
  have found : (ordinalEndings.findSome? fun v => dropEnding? v (t ++ ending.toList)) = some t := by
    obtain ⟨before, after, split, fresh⟩ := List.eq_append_cons_of_mem known
    refine List.findSome?_eq_some_iff.mpr ⟨before, ending, after, split, ?_, fun v mem => ?_⟩
    · rw [each ending known, if_pos rfl]
    · have listed : v ∈ ordinalEndings := split ▸ List.mem_append_left _ mem
      rw [each v listed, if_neg]
      rintro rfl
      exact fresh mem
  rw [stem, found]
  rfl

/-- No word for a number begins with a digit. -/
def IsPlain (table : List (String × Nat)) : Prop :=
  ∀ entry ∈ table, entry.1.toList.head?.any isDigit = false

theorem numberWords_isPlain : IsPlain numberWords := by
  unfold IsPlain
  decide

theorem positionWords_isPlain : IsPlain positionWords := by
  unfold IsPlain
  decide

theorem IsPlain.ne {table : List (String × Nat)} (plain : IsPlain table) (ne : digits ≠ [])
    (all : ∀ c ∈ digits, isDigit c = true) (t : List Char) :
    ∀ entry ∈ table, entry.1.toList ≠ digits ++ t := by
  intro entry mem same
  have first := plain entry mem
  cases digits with
  | nil => exact ne rfl
  | cons d ds =>
    rw [same] at first
    exact absurd (all d List.mem_cons_self) (Bool.eq_false_iff.mp first)

theorem IsPlain.lookup {table : List (String × Nat)} (plain : IsPlain table) (ne : digits ≠ [])
    (all : ∀ c ∈ digits, isDigit c = true) (t : List Char) :
    lookup table (digits ++ t) = none := by
  refine Option.map_eq_none_iff.mpr (List.find?_eq_none.mpr fun entry mem same => ?_)
  exact plain.ne ne all t entry mem (eq_of_beq same)

section Numeral

variable (ne : digits ≠ []) (all : ∀ c ∈ digits, isDigit c = true) (known : ending ∈ ordinalEndings)

include all known

theorem lowercase_ordinal : lowercase (digits ++ ending.toList) = digits ++ ending.toList := by
  have letters : ∀ w ∈ ordinalEndings, (w.toList.all fun c => decide (IsLowered c)) = true := by
    decide
  refine lowercase_of_kept fun c mem => ?_
  rcases List.mem_append.mp mem with digit | letter
  · exact isKept_of_isDigit (all c digit)
  · have lowered := List.all_eq_true.mp (letters ending known) c letter
    exact isKept_of_lowered (of_decide_eq_true lowered)

omit all in
theorem leadingDigits_ordinal : leadingDigits (digits ++ ending.toList) = leadingDigits digits := by
  have letters : ∀ w ∈ ordinalEndings, w.toList.takeWhile Char.isDigit = [] := by decide
  rw [leadingDigits, List.takeWhile_append, letters ending known, List.append_nil]
  split
  · rename_i whole
    exact ((List.takeWhile_prefix _).eq_of_length whole).symm
  · rfl

include ne

theorem numberOf?_ordinal :
    numberOf? (digits ++ ending.toList) = count? (leadingDigits digits) := by
  have noWord := numberWords_isPlain.lookup ne all []
  rw [List.append_nil] at noWord
  rw [numberOf?, lowercase_ordinal all known, stem_ordinal known, noWord, Option.or_none]

theorem positionOf?_ordinal (n : Nat) : positionOf? (digits ++ ending.toList) = some (n + 1) ↔
    count? (leadingDigits digits) = some (n + 1) := by
  rw [positionOf?, numberOf?_ordinal ne all known, lowercase_ordinal all known,
    positionWords_isPlain.lookup ne all]
  split
  · rename_i found
    rw [found]
  · rename_i missed
    exact iff_of_false (by rintro ⟨⟩) (missed n)

theorem hasRank_ordinal_iff : HasRank (digits ++ ending.toList) n ↔
    leadingDigits digits ≠ [] ∧ numeralValue (leadingDigits digits) = n := by
  rw [HasRank, leadingDigits_ordinal known]
  refine or_iff_right ?_
  rintro ⟨w, mem, same⟩
  exact positionWords_isPlain.ne ne all _ (w, n) mem same.symm

end Numeral

/-! ## Positions -/

theorem hasRank_word_iff {entry : String × Nat} (known : entry ∈ positionWords) :
    HasRank entry.1.toList n ↔ entry.2 = n := by
  have noDigits : ∀ entry ∈ positionWords, leadingDigits entry.1.toList = [] := by decide
  have apart : ∀ a ∈ positionWords, ∀ b ∈ positionWords, a.1 = b.1 → a.2 = b.2 := by decide
  constructor
  · rintro (⟨w, mem, same⟩ | ⟨some_digits, _⟩)
    · exact apart entry known (w, n) mem (String.toList_inj.mp same)
    · exact absurd (noDigits entry known) some_digits
  · rintro rfl
    exact .inl ⟨entry.1, known, rfl⟩

theorem positionOf?_eq_some_iff (h : IsOrdinal t) (fits : n + 1 < counts) :
    positionOf? t = some (n + 1) ↔ HasRank t (n + 1) := by
  have words : ∀ entry ∈ positionWords, positionOf? entry.1.toList = some entry.2 := by decide
  cases h with
  | word known => rw [words _ known, hasRank_word_iff known, Option.some_inj]
  | numeral ne all known =>
    rw [positionOf?_ordinal ne all known, hasRank_ordinal_iff ne all known, count?_eq_some_iff]
    constructor
    · rintro ⟨some_digits, value, _⟩
      exact ⟨some_digits, value⟩
    · rintro ⟨some_digits, value⟩
      exact ⟨some_digits, value, fits⟩

theorem LetterKind.letterAt?_eq_some_iff {kind : LetterKind} {p : Option Nat} {c : Char} :
    kind.letterAt? p = some c ↔ ∃ n, p = some (n + 1) ∧ kind.table[n]? = some c := by
  unfold letterAt?
  split
  · rename_i n
    constructor
    · exact fun found => ⟨n, rfl, found⟩
    · rintro ⟨_, ⟨⟩, found⟩
      exact found
  · rename_i missed
    refine iff_of_false (by rintro ⟨⟩) ?_
    rintro ⟨n, same, _⟩
    exact missed n same

theorem LetterKind.length_table (kind : LetterKind) : kind.table.length ≤ 26 := by
  cases kind <;> decide

/-- No table is so long that an ordinal past the counts would have a letter. -/
theorem letterAt?_positionOf? (h : IsOrdinal t) {kind : LetterKind} {c : Char} :
    kind.letterAt? (positionOf? t) = some c ↔
      ∃ n, HasRank t (n + 1) ∧ kind.table[n]? = some c := by
  rw [LetterKind.letterAt?_eq_some_iff]
  refine exists_congr fun n => and_congr_left fun found => positionOf?_eq_some_iff h ?_
  have within := (List.getElem?_eq_some_iff.mp found).1
  have short := kind.length_table
  unfold counts
  omega

end Query
end TextCatalog
