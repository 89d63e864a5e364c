import TextCatalog.Proofs.Pattern.Search
import TextCatalog.Query.Reading

/-!
# TextCatalog.Proofs.Query.Phrase

What the phrases of a query capture.

* `countWords`, `wordCountPhrase_captures` — a count of words is one of thirteen words.
* `letterPhrase_captures` — a letter is one of the Latin alphabet.
* `IsOrdinal`, `ordinalPhrase_captures` — an ordinal is a word for one, or digits with an ending; a
  kind of letter comes after it.
-/

namespace TextCatalog
namespace Query

open Pattern Text

variable {prev : Option Char} {s rest : List Char} {xs : List (List Char)}

def countWords : List String :=
  ["one", "single", "double", "triple", "two", "three", "four", "five", "six", "seven", "eight",
   "nine", "ten"]

theorem wordCountPhrase_captures (h : wordCountPhrase.Spells prev s rest xs) :
    ∃ w ∈ countWords, xs = [w.toList] := by
  obtain ⟨_, _, _, _, rfl, rfl, h, boundary⟩ := h
  obtain ⟨_, _, _, _, rfl, rfl, h, plural⟩ := h
  obtain ⟨_, _, _, _, rfl, rfl, h, noun⟩ := h
  obtain ⟨_, _, _, _, rfl, rfl, h, space⟩ := h
  obtain ⟨_, _, _, _, rfl, rfl, h, filler⟩ := h
  obtain ⟨_, _, _, _, rfl, rfl, opening, _, number, rfl⟩ := h
  obtain ⟨⟨w, mem, rfl⟩, rfl⟩ := spells_oneWord_iff.mp number
  rw [Spells.silent rfl boundary, Spells.silent rfl plural, Spells.silent rfl noun,
    Spells.silent rfl space, Spells.silent rfl filler, Spells.silent rfl opening]
  exact ⟨w, mem, rfl⟩

theorem letterPhrase_captures (h : letterPhrase.Spells prev s rest xs) :
    ∃ c, 'a' ≤ c ∧ c ≤ 'z' ∧ xs = [[c]] := by
  obtain ⟨_, _, _, _, rfl, rfl, h, boundary⟩ := h
  obtain ⟨_, _, _, _, rfl, rfl, opening, _, letter, rfl⟩ := h
  obtain ⟨⟨c, rfl, has⟩, rfl⟩ := letter
  rw [Spells.silent rfl boundary, Spells.silent rfl opening]
  obtain ⟨low, high⟩ := Bool.and_eq_true_iff.mp has
  exact ⟨c, of_decide_eq_true low, of_decide_eq_true high, rfl⟩

theorem letter_of_findLast? {m : Match} (last : letterPhrase.findLast? s = some m) :
    ∃ c, 'a' ≤ c ∧ c ≤ 'z' ∧ m.capture 0 = [c] := by
  obtain ⟨_, _, _, spells⟩ := spells_of_mem_findAll (mem_findAll_of_findLast? last)
  obtain ⟨c, low, high, captures⟩ := letterPhrase_captures spells
  rw [Match.capture, captures]
  exact ⟨c, low, high, rfl⟩

/-! ## Ordinals -/

/-- The digits may be those of any script. -/
inductive IsOrdinal : List Char → Prop where
  | word {entry : String × Nat} (known : entry ∈ positionWords) : IsOrdinal entry.1.toList
  | numeral {digits : List Char} {ending : String} (ne : digits ≠ [])
    (all : ∀ c ∈ digits, isDigit c = true) (known : ending ∈ ordinalEndings) :
    IsOrdinal (digits ++ ending.toList)

theorem isOrdinal_of_spells (h : (oneOf (Pattern.text "first")
    [Pattern.text "second", Pattern.text "third", Pattern.text "fourth", Pattern.text "fifth",
     .run .digit ++ oneWord "st" ["nd", "rd", "th"]]).Spells prev s rest xs) :
    IsOrdinal s ∧ xs = [] := by
  have word : ∀ entry ∈ positionWords, s = entry.1.toList → IsOrdinal s := by
    rintro entry known rfl
    exact .word known
  obtain ⟨q, mem, spells⟩ := spells_oneOf_iff.mp h
  simp only [List.mem_cons, List.not_mem_nil, or_false] at mem
  rcases mem with rfl | rfl | rfl | rfl | rfl | rfl
  · exact ⟨word ("first", 1) (by decide) spells.1, spells.2⟩
  · exact ⟨word ("second", 2) (by decide) spells.1, spells.2⟩
  · exact ⟨word ("third", 3) (by decide) spells.1, spells.2⟩
  · exact ⟨word ("fourth", 4) (by decide) spells.1, spells.2⟩
  · exact ⟨word ("fifth", 5) (by decide) spells.1, spells.2⟩
  · obtain ⟨digits, _, _, _, rfl, rfl, ⟨⟨ne, all, _⟩, rfl⟩, ending⟩ := spells
    obtain ⟨⟨w, known, rfl⟩, rfl⟩ := spells_oneWord_iff.mp ending
    exact ⟨.numeral ne all known, rfl⟩

def LetterKind.word : LetterKind → String
  | vowel => "vowel"
  | consonant => "consonant"
  | letter => "letter"

theorem LetterKind.exists_word {w : String} (h : w ∈ ["vowel", "consonant", "letter"]) :
    ∃ kind : LetterKind, w = kind.word := by
  simp only [List.mem_cons, List.not_mem_nil, or_false] at h
  rcases h with rfl | rfl | rfl
  · exact ⟨vowel, rfl⟩
  · exact ⟨consonant, rfl⟩
  · exact ⟨letter, rfl⟩

theorem ordinalPhrase_captures (h : ordinalPhrase.Spells prev s rest xs) :
    ∃ ordinal, IsOrdinal ordinal ∧ ∃ (kind : LetterKind) (scope : List (List Char)),
      xs = ordinal :: kind.word.toList :: scope := by
  obtain ⟨_, _, _, scope, rfl, rfl, h, _⟩ := h
  obtain ⟨_, _, _, _, rfl, rfl, h, _, kinds, rfl⟩ := h
  obtain ⟨_, _, _, _, rfl, rfl, h, space⟩ := h
  obtain ⟨_, ordinal, _, _, rfl, rfl, opening, _, ordinals, rfl⟩ := h
  obtain ⟨known, rfl⟩ := isOrdinal_of_spells ordinals
  obtain ⟨⟨w, mem, rfl⟩, rfl⟩ := spells_oneWord_iff.mp kinds
  obtain ⟨kind, rfl⟩ := LetterKind.exists_word mem
  rw [Spells.silent rfl opening, Spells.silent rfl space]
  exact ⟨ordinal, known, kind, scope, rfl⟩

theorem ordinal_of_findLast? {m : Match} (last : ordinalPhrase.findLast? s = some m) :
    ∃ ordinal, IsOrdinal ordinal ∧ ∃ (kind : LetterKind) (scope : List (List Char)),
      m.captures = ordinal :: kind.word.toList :: scope := by
  obtain ⟨_, _, _, spells⟩ := spells_of_mem_findAll (mem_findAll_of_findLast? last)
  exact ordinalPhrase_captures spells

end Query
end TextCatalog
