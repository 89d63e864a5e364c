import TextCatalog.Proofs.Record.FrequencyMap
import TextCatalog.Record.Basic

/-!
# TextCatalog.Proofs.Record.Properties

No property of a text counts more than the characters of the text.

* `length_distinct_le`, `length_words_le` — the counts of characters and of words.
* `frequencies_le` — the count of a single character.
* `Properties.IsCounted` — every count is one of 64 bits, as the counts of texts are
  (`isCounted_ofText`).
-/

namespace TextCatalog

open Text

theorem length_distinct_le (s : List Char) : (distinct s).length ≤ s.length := by
  induction s with
  | nil => exact Nat.le_refl 0
  | cons c cs ih =>
    rw [distinct]
    split
    · exact Nat.le_succ_of_le ih
    · exact Nat.succ_le_succ ih

theorem length_inked_le (s : List Char) : (inked s).length ≤ s.length := List.length_filter_le _ s

theorem length_words_le (s : List Char) : (words s).length ≤ s.length := by
  induction s with
  | nil => exact Nat.le_refl 0
  | cons c cs ih =>
    unfold words
    split
    · exact Nat.le_succ_of_le ih
    · split
      · exact Nat.le_refl 1
      · split
        · exact Nat.succ_le_succ ih
        · split
          · exact Nat.succ_le_succ (Nat.zero_le _)
          · rename_i ws same
            rw [same] at ih
            exact Nat.le_succ_of_le ih

theorem frequencies_le {s : List Char} {e : String × Nat} (h : e ∈ (frequencies s).entries) :
    e.2 ≤ s.length :=
  Nat.le_trans (FrequencyMap.get?_tally_le (FrequencyMap.mem_entries_iff.mp h))
    (List.length_filter_le _ s)

namespace Properties

/-- Every count is one of 64 bits. -/
structure IsCounted (p : Properties) : Prop where
  length : p.length < counts
  uniqueCharacters : p.uniqueCharacters < counts
  wordCount : p.wordCount < counts
  frequencies : ∀ e ∈ p.frequencies.entries, e.2 < counts

theorem uniqueCharacters_ofText_le (s : String) :
    (ofText s).uniqueCharacters ≤ s.toList.length :=
  Nat.le_trans (length_distinct_le _) (length_inked_le _)

theorem wordCount_ofText_le (s : String) : (ofText s).wordCount ≤ s.toList.length :=
  length_words_le _

theorem isCounted_ofText {s : String} (h : s.toList.length < counts) : (ofText s).IsCounted where
  length := h
  uniqueCharacters := Nat.lt_of_le_of_lt (uniqueCharacters_ofText_le s) h
  wordCount := Nat.lt_of_le_of_lt (wordCount_ofText_le s) h
  frequencies _ mem := Nat.lt_of_le_of_lt (frequencies_le mem) h

end Properties
end TextCatalog
