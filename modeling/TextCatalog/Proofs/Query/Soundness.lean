import TextCatalog.Proofs.Query.Phrase
import TextCatalog.Query.Basic

/-!
# TextCatalog.Proofs.Query.Soundness

A query that is read says something, and something that can hold.

* `IsModest` — what every stage keeps of a filter: the count of words and the letter are among
  those that the vocabulary knows.
* `apply_modest`, `run_modest` — one stage, and all of them.
* `parse_sound` — the filter of any query that is read.
-/

namespace TextCatalog
namespace Query

open Pattern Text

structure IsModest (f : Filter) : Prop where
  words : ∀ n, f.wordCount = some n → 1 ≤ n ∧ n ≤ 10
  letter : ∀ c, f.containsCharacter = some c → 'a' ≤ c ∧ c ≤ 'z'

theorem isModest_empty : IsModest Filter.empty := by
  constructor
  · intro n h
    cases h
  · intro c h
    cases h

/-! ## Vocabulary -/

theorem numberOf?_countWords : ∀ w ∈ countWords, ∀ n, numberOf? w.toList = some n →
    1 ≤ n ∧ n ≤ 10 := by
  have small : ∀ w ∈ countWords, ∃ n ∈ List.range 11, 1 ≤ n ∧ numberOf? w.toList = some n := by
    decide
  intro w mem n found
  obtain ⟨k, range, low, same⟩ := small w mem
  rw [found] at same
  cases same
  exact ⟨low, Nat.le_of_lt_succ (List.mem_range.mp range)⟩

theorem table_latin (kind : LetterKind) : ∀ c ∈ kind.table, 'a' ≤ c ∧ c ≤ 'z' := by
  have all : kind.table.all (fun c => decide ('a' ≤ c ∧ c ≤ 'z')) = true := by
    cases kind <;> rfl
  exact fun c mem => of_decide_eq_true (List.all_eq_true.mp all c mem)

theorem letterAt?_latin {kind : LetterKind} {position : Option Nat} {c : Char}
    (h : kind.letterAt? position = some c) : 'a' ≤ c ∧ c ≤ 'z' := by
  unfold LetterKind.letterAt? at h
  split at h
  · exact table_latin kind c (List.mem_of_getElem? h)
  · cases h

/-! ## Readings -/

theorem readPalindrome_modest {s : List Char} {f : Filter} (h : IsModest f) :
    IsModest (readPalindrome s f) := by
  unfold readPalindrome
  split
  · exact ⟨h.words, h.letter⟩
  · split
    · exact ⟨h.words, h.letter⟩
    · exact h

theorem readWordCount_modest {s : List Char} {f : Filter} (h : IsModest f) :
    IsModest (readWordCount s f) := by
  unfold readWordCount
  split
  · rename_i n found
    refine ⟨?_, h.letter⟩
    rintro k ⟨⟩
    obtain ⟨m, first, number⟩ := Option.bind_eq_some_iff.mp found
    obtain ⟨_, _, _, spells⟩ := spells_of_mem_findAll (mem_findAll_of_find? first)
    obtain ⟨w, mem, captures⟩ := wordCountPhrase_captures spells
    have captured : m.capture 0 = w.toList := by
      rw [Match.capture, captures]
      rfl
    rw [captured] at number
    exact numberOf?_countWords w mem n number
  · exact h

theorem readLength_modest {s : List Char} {f g : Filter} (h : IsModest f)
    (read : readLength s f = .ok g) : IsModest g := by
  unfold readLength at read
  cases bounds : readBounds s ⟨f.minLength, f.maxLength⟩ with
  | error e =>
    rw [bounds] at read
    cases read
  | ok b =>
    rw [bounds] at read
    cases read
    exact ⟨h.words, h.letter⟩

theorem ordinalRequest_modest {r : OrdinalRequest} {f g : Filter} (h : IsModest f)
    (read : r.apply f = .ok g) : IsModest g := by
  unfold OrdinalRequest.apply at read
  split at read
  · cases read
    exact h
  · split at read
    · rename_i c found
      cases read
      refine ⟨h.words, ?_⟩
      rintro d ⟨⟩
      exact letterAt?_latin found
    · split at read
      · cases read
      · cases read
        exact h

theorem readOrdinal_modest {s : List Char} {f g : Filter} (h : IsModest f)
    (read : readOrdinal s f = .ok g) : IsModest g := by
  unfold readOrdinal at read
  split at read
  · cases read
    exact h
  · exact ordinalRequest_modest h read

theorem readLetter_modest {s : List Char} {f : Filter} (h : IsModest f) :
    IsModest (readLetter s f) := by
  unfold readLetter
  split
  · exact h
  · split
    · rename_i c found
      refine ⟨h.words, ?_⟩
      rintro d ⟨⟩
      obtain ⟨m, last, first⟩ := Option.bind_eq_some_iff.mp found
      obtain ⟨a, low, high, captured⟩ := letter_of_findLast? last
      rw [captured] at first
      cases first
      exact ⟨low, high⟩
    · exact h

theorem refuseExclusion_ok {s : List Char} {f g : Filter} (h : refuseExclusion s f = .ok g) :
    g = f := by
  unfold refuseExclusion at h
  split at h
  · cases h
  · cases h
    rfl

/-! ## Stages -/

theorem apply_modest {stage : Stage} {s : List Char} {f g : Filter} (h : IsModest f)
    (read : stage.apply s f = .ok g) : IsModest g := by
  cases stage with
  | palindrome =>
    cases read
    exact readPalindrome_modest h
  | wordCount =>
    cases read
    exact readWordCount_modest h
  | length => exact readLength_modest h read
  | ordinalLetter => exact readOrdinal_modest h read
  | namedLetter =>
    cases read
    exact readLetter_modest h
  | exclusion =>
    rw [refuseExclusion_ok read]
    exact h

theorem run_modest {stages : List Stage} {s : List Char} {f g : Filter} (h : IsModest f)
    (read : Stage.run stages s f = .ok g) : IsModest g := by
  induction stages generalizing f with
  | nil =>
    cases read
    exact h
  | cons stage stages ih =>
    rw [Stage.run] at read
    split at read
    · cases read
    · rename_i f' first
      exact ih (apply_modest h first) read

/-! ## The whole reading -/

theorem check_ok {f : Filter} (h : check f = .ok ()) : f ≠ Filter.empty ∧
    ∀ low high, f.minLength = some low → f.maxLength = some high → low ≤ high := by
  unfold check at h
  split at h
  · cases h
  · rename_i set
    refine ⟨fun same => set (Filter.isEmpty_iff.mpr same), ?_⟩
    intro low high hl hh
    rw [hl, hh] at h
    simp only at h
    split at h
    · cases h
    · omega

theorem filterOf_ok {s : List Char} {f : Filter} (h : filterOf s = .ok f) :
    ∃ text, normalizeChars s = .ok text ∧ Stage.run Stage.all text Filter.empty = .ok f ∧
      check f = .ok () := by
  unfold filterOf at h
  cases normal : normalizeChars s with
  | error e =>
    rw [normal] at h
    cases h
  | ok text =>
    cases read : Stage.run Stage.all text Filter.empty with
    | error e =>
      simp only [normal, read, bind, Except.bind] at h
      cases h
    | ok g =>
      cases checked : check g with
      | error e =>
        simp only [normal, read, checked, bind, Except.bind] at h
        cases h
      | ok =>
        simp only [normal, read, checked, bind, Except.bind] at h
        cases h
        exact ⟨text, rfl, read, checked⟩

/-- Something is asked for, the bounds leave room, and the rest is in the vocabulary. -/
structure IsSound (f : Filter) : Prop extends IsModest f where
  asks : f ≠ Filter.empty
  room : ∀ low high, f.minLength = some low → f.maxLength = some high → low ≤ high

theorem parse_sound {s : String} {q : Query} (h : parse s = .ok q) :
    q.original = s ∧ IsSound q.filter := by
  unfold parse at h
  cases read : filterOf s.toList with
  | error e =>
    rw [read] at h
    cases h
  | ok f =>
    rw [read] at h
    cases h
    obtain ⟨text, _, stages, checked⟩ := filterOf_ok read
    obtain ⟨asks, room⟩ := check_ok checked
    exact ⟨rfl, run_modest isModest_empty stages, asks, room⟩

theorem parse_sound_two_words :
    parse "Two word strings" = .ok ⟨"Two word strings", { wordCount := some 2 }⟩ ∧
      IsSound { wordCount := some 2 } := by
  have read : parse "Two word strings" = .ok ⟨"Two word strings", { wordCount := some 2 }⟩ := by
    rfl
  exact ⟨read, (parse_sound read).2⟩

end Query
end TextCatalog
