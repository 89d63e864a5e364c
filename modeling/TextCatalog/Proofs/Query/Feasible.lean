import TextCatalog.Filter.Basic
import TextCatalog.Proofs.Query.Counted
import TextCatalog.Proofs.Record.Measures

/-!
# TextCatalog.Proofs.Query.Feasible

Which queries can ever find a text.

* `Filter.accepts_ofText_iff` — what a filter asks of a text.
* `Filter.lengthNeeded` — what the words asked for take, and two letters to be no palindrome.
* `Filter.lengthNeeded_le`, `Filter.exists_accepted` — no accepted text is shorter, and there is one
  that is no longer than this and the least length asked for.
* `feasible_iff` — a query finds nothing only where its greatest length is below the one needed.
-/

namespace TextCatalog

open Text

namespace Filter

variable {f : Filter}

theorem onField_eq_true_iff {α : Type} {field : Option α} {test : α → Bool} :
    onField field test = true ↔ ∀ a ∈ field, test a = true := by
  cases field <;> simp [onField]

theorem accepts_ofText_iff {v : String} {t : Instant} :
    f.accepts (Record.ofText v t) = true ↔
      (∀ b ∈ f.isPalindrome, TextCatalog.isPalindrome v.toList = b) ∧
        (∀ n ∈ f.minLength, n ≤ v.toList.length) ∧
        (∀ n ∈ f.maxLength, v.toList.length ≤ n) ∧
        (∀ n ∈ f.wordCount, (words v.toList).length = n) ∧
        ∀ c ∈ f.containsCharacter, ∃ x ∈ v.toList, sameLetter c x = true := by
  simp only [accepts, Bool.and_eq_true, onField_eq_true_iff, beq_iff_eq, decide_eq_true_eq,
    List.any_eq_true, and_assoc]
  rfl

/-! ## Length -/

/-- The least length of a text with as many words, and with two letters if it is no palindrome. -/
def lengthNeeded (f : Filter) : Nat :=
  max (2 * f.wordCount.getD 1 - 1) (if f.isPalindrome = some false then 2 else 1)

theorem lengthNeeded_le {v : String} {t : Instant} (catalogable : isCatalogable v = true)
    (accepted : f.accepts (Record.ofText v t) = true) : f.lengthNeeded ≤ v.toList.length := by
  obtain ⟨palindrome, _, _, count, _⟩ := accepts_ofText_iff.mp accepted
  have some_letter := length_pos_of_catalogable catalogable
  refine Nat.max_le.mpr ⟨?_, ?_⟩
  · cases asked : f.wordCount with
    | none => exact some_letter
    | some n =>
      have bound := two_mul_length_words_le v.toList
      rw [count n asked] at bound
      exact Nat.sub_le_of_le_add bound
  · split
    · rename_i asked
      -- A single letter would be a palindrome.
      refine Nat.le_of_not_lt fun short => ?_
      have turns := isPalindrome_of_catalogable catalogable short
      rw [palindrome false asked] at turns
      cases turns
    · exact some_letter

theorem lengthNeeded_eq (count : 1 ≤ f.wordCount.getD 1) :
    f.lengthNeeded = max (2 * (f.wordCount.getD 1 - 1) + 1)
      (if f.isPalindrome.getD true then 1 else 2) := by
  have words : 2 * f.wordCount.getD 1 - 1 = 2 * (f.wordCount.getD 1 - 1) + 1 := by omega
  rw [lengthNeeded, words]
  rcases f.isPalindrome with _ | _ | _ <;> rfl

theorem sameLetter_self (c : Char) : sameLetter c c = true := beq_self_eq_true c.toLower

/-- Any length from the one needed is that of an accepted text, if it is within the bounds. -/
theorem exists_accepted (modest : Query.IsModest f) {n : Nat} (enough : f.lengthNeeded ≤ n)
    (low : ∀ min ∈ f.minLength, min ≤ n) (high : ∀ most ∈ f.maxLength, n ≤ most) (t : Instant) :
    ∃ v, v.toList.length = n ∧ isCatalogable v = true ∧
      f.accepts (Record.ofText v t) = true := by
  obtain ⟨first, last⟩ :
      'a' ≤ f.containsCharacter.getD 'a' ∧ f.containsCharacter.getD 'a' ≤ 'z' := by
    cases asked : f.containsCharacter with
    | none => decide
    | some c => exact modest.letter c asked
  have count : 1 ≤ f.wordCount.getD 1 := by
    cases asked : f.wordCount with
    | none => exact Nat.le_refl 1
    | some m => exact (modest.words m asked).1
  obtain ⟨s, measures⟩ := exists_measures first last (f.wordCount.getD 1 - 1) (n - f.lengthNeeded)
    (f.isPalindrome.getD true)
  rw [← lengthNeeded_eq count, Nat.add_sub_cancel' enough, Nat.sub_add_cancel count] at measures
  refine ⟨String.ofList s, ?_, measures.catalogable, accepts_ofText_iff.mpr ?_⟩
  · rw [String.toList_ofList]
    exact measures.length
  rw [String.toList_ofList, measures.length, measures.count, measures.palindrome]
  refine ⟨fun b asked => ?_, low, high, fun m asked => ?_, fun c asked => ?_⟩
  · rw [asked]
    rfl
  · rw [asked]
    rfl
  · have letter := measures.letter
    rw [asked] at letter
    exact ⟨c, letter, sameLetter_self c⟩

end Filter

namespace Query

theorem lengthNeeded_lt {f : Filter} (modest : IsModest f) : f.lengthNeeded < counts := by
  have words : f.wordCount.getD 1 ≤ 10 := by
    cases asked : f.wordCount with
    | none => decide
    | some n => exact (modest.words n asked).2
  refine Nat.max_lt.mpr ⟨?_, ?_⟩
  · have plenty : 20 ≤ counts := by decide
    omega
  · split <;> decide

/-- Where there is room, a text as long as has to be, or as is asked for, is found. -/
theorem exists_found {s : String} {q : Query} (h : parse s = .ok q) (t : Instant)
    (enough : ∀ most ∈ q.filter.maxLength, q.filter.lengthNeeded ≤ most) :
    ∃ v, v.toList.length < counts ∧ isCatalogable v = true ∧
      q.filter.accepts (Record.ofText v t) = true := by
  obtain ⟨read, _⟩ := parse_eq_ok_iff.mp h
  obtain ⟨_, _, stages, checked⟩ := filterOf_ok read
  have modest := run_modest isModest_empty stages
  let n := max (q.filter.minLength.getD 0) q.filter.lengthNeeded
  have low : ∀ min ∈ q.filter.minLength, min ≤ n := by
    intro min asked
    have set : q.filter.minLength.getD 0 = min := by rw [asked]; rfl
    exact Nat.le_trans (Nat.le_of_eq set.symm) (Nat.le_max_left _ _)
  have high : ∀ most ∈ q.filter.maxLength, n ≤ most := by
    intro most asked
    refine Nat.max_le.mpr ⟨?_, enough most asked⟩
    cases asked' : q.filter.minLength with
    | none => exact Nat.zero_le most
    | some min => exact (check_ok checked).2 min most asked' asked
  have small : n < counts := by
    refine Nat.max_lt.mpr ⟨?_, lengthNeeded_lt modest⟩
    cases asked : q.filter.minLength with
    | none => decide
    | some min => exact (isCounted_of_parse h).1.minLength min asked
  obtain ⟨v, length, accepted⟩ :=
    Filter.exists_accepted modest (Nat.le_max_right _ _ : _ ≤ n) low high t
  exact ⟨v, length ▸ small, accepted⟩

/--
A query that is read finds some text, unless its greatest length is below what the words that it
asks for take, or below the two letters that a text needs in order to read differently backwards.
The text has a length of 64 bits.
-/
theorem feasible_iff {s : String} {q : Query} (h : parse s = .ok q) (t : Instant) :
    ((∃ v, isCatalogable v = true ∧ q.filter.accepts (Record.ofText v t) = true) ↔
      ∀ most ∈ q.filter.maxLength, q.filter.lengthNeeded ≤ most) ∧
      ((∀ most ∈ q.filter.maxLength, q.filter.lengthNeeded ≤ most) →
        ∃ v, v.toList.length < counts ∧ isCatalogable v = true ∧
          q.filter.accepts (Record.ofText v t) = true) := by
  refine ⟨⟨?_, ?_⟩, exists_found h t⟩
  · rintro ⟨v, catalogable, accepted⟩ most asked
    exact Nat.le_trans (Filter.lengthNeeded_le catalogable accepted)
      ((Filter.accepts_ofText_iff.mp accepted).2.2.1 most asked)
  · intro enough
    obtain ⟨v, _, found⟩ := exists_found h t enough
    exact ⟨v, found⟩

/-- Three words do not fit into four characters, although the bounds leave room by themselves. -/
theorem feasible_iff_three_words :
    parse "three word strings shorter than 5" =
        .ok ⟨"three word strings shorter than 5", { wordCount := some 3, maxLength := some 4 }⟩ ∧
      ∀ t v, isCatalogable v = true →
        Filter.accepts { wordCount := some 3, maxLength := some 4 }
          (Record.ofText v t) = false := by
  have read : parse "three word strings shorter than 5" =
      .ok ⟨"three word strings shorter than 5", { wordCount := some 3, maxLength := some 4 }⟩ := by
    rfl
  refine ⟨read, fun t v catalogable => Bool.eq_false_iff.mpr fun accepted => ?_⟩
  have enough := (feasible_iff read t).1.mp ⟨v, catalogable, accepted⟩ 4 rfl
  exact absurd enough (by decide)

end Query
end TextCatalog
