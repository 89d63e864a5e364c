import Mathlib.Data.List.Basic
import Mathlib.Data.List.TakeWhile
import TextCatalog.Proofs.Text.Classes
import TextCatalog.Proofs.Text.Normal
import TextCatalog.Record.Basic

/-!
# TextCatalog.Proofs.Record.Measures

How short a text with given properties can be.

* `two_mul_length_words_le` — two words have a blank between them.
* `isCatalogable_iff` — a text that may be catalogued, without its trimming.
* `isPalindrome_of_catalogable` — a single letter reads the same both ways.
* `chain` — words of one letter each, which are as short as words can be.
* `exists_measures` — there is a text of any count of words, a palindrome or not, that is no longer
  than it has to be.
-/

namespace TextCatalog
namespace Text

variable {c d : Char} {s : List Char}

/-! ## Words -/

theorem words_blank (blank : isBlank c = true) (s : List Char) : words (c :: s) = words s := by
  rw [words.eq_def]
  exact if_pos blank

theorem words_ink (ink : isBlank c = false) : words [c] = [[c]] := by
  rw [words, if_neg (by rw [ink]; decide)]

theorem words_ink_blank (ink : isBlank c = false) (blank : isBlank d = true) (s : List Char) :
    words (c :: d :: s) = [c] :: words s := by
  rw [words, if_neg (by rw [ink]; decide), words_blank blank]
  exact if_pos blank

theorem words_ne_nil (ink : isBlank c = false) (s : List Char) : words (c :: s) ≠ [] := by
  rw [words.eq_def]
  dsimp only
  rw [if_neg (by rw [ink]; decide)]
  split
  · exact List.cons_ne_nil _ _
  · split
    · exact List.cons_ne_nil _ _
    · split <;> exact List.cons_ne_nil _ _

theorem words_ink_ink (first : isBlank c = false) (second : isBlank d = false) (s : List Char) :
    (words (c :: d :: s)).length = (words (d :: s)).length := by
  rw [words, if_neg (by rw [first]; decide)]
  simp only [second, Bool.false_eq_true, if_false]
  cases same : words (d :: s) with
  | nil => exact absurd same (words_ne_nil second s)
  | cons w ws => rfl

theorem two_mul_length_words_le : ∀ s : List Char, 2 * (words s).length ≤ s.length + 1
  | [] => Nat.zero_le _
  | [c] => by
    cases ink : isBlank c with
    | true =>
      rw [words_blank ink]
      exact Nat.zero_le _
    | false =>
      rw [words_ink ink]
      exact Nat.le_refl 2
  | c :: d :: s => by
    have rest := two_mul_length_words_le (d :: s)
    have after := two_mul_length_words_le s
    simp only [List.length_cons] at rest ⊢
    cases first : isBlank c with
    | true =>
      rw [words_blank first]
      omega
    | false =>
      cases second : isBlank d with
      | true =>
        rw [words_ink_blank first second, List.length_cons]
        omega
      | false =>
        rw [words_ink_ink first second]
        omega

theorem words_of_blanks (blank : ∀ c ∈ s, isBlank c = true) : words s = [] := by
  induction s with
  | nil => rfl
  | cons c s ih =>
    rw [words_blank (blank c List.mem_cons_self)]
    exact ih fun d mem => blank d (List.mem_cons_of_mem c mem)

/-! ## Ends -/

theorem mem_dropWhile_blank (ink : isBlank c = false) (mem : c ∈ s) : c ∈ s.dropWhile isBlank := by
  rw [← List.takeWhile_append_dropWhile (p := isBlank) (l := s)] at mem
  rcases List.mem_append.mp mem with taken | dropped
  · have blank : isBlank c = true := List.mem_takeWhile_imp taken
    rw [ink] at blank
    cases blank
  · exact dropped

theorem mem_of_mem_trim (mem : c ∈ trim s) : c ∈ s := by
  rw [trim, trimEnd, trimStart, List.mem_reverse] at mem
  exact (List.dropWhile_sublist _).mem (List.mem_reverse.mp ((List.dropWhile_sublist _).mem mem))

/-- What is trimmed is blank. -/
theorem mem_trim_of_ink (ink : isBlank c = false) (mem : c ∈ s) : c ∈ trim s := by
  rw [trim, trimEnd, trimStart, List.mem_reverse]
  exact mem_dropWhile_blank ink (List.mem_reverse.mpr (mem_dropWhile_blank ink mem))

end Text

open Text

variable {c d : Char} {s : List Char}

/-! ## Texts that may be catalogued -/

/-- A text may be catalogued when it is of Latin letters and blanks, and not of blanks alone. -/
theorem isCatalogable_iff {v : String} : isCatalogable v = true ↔
    (∃ c ∈ v.toList, isBlank c = false) ∧ ∀ c ∈ v.toList, isCatalogableChar c = true := by
  simp only [isCatalogable, Bool.and_eq_true, Bool.not_eq_true', List.isEmpty_eq_false_iff,
    List.all_eq_true]
  constructor
  · rintro ⟨some_ink, letters⟩
    refine ⟨?_, fun c mem => ?_⟩
    · by_contra none_ink
      refine some_ink (trim_of_blanks fun c mem => ?_)
      cases ink : isBlank c with
      | true => rfl
      | false => exact absurd ⟨c, mem, ink⟩ none_ink
    · cases ink : isBlank c with
      | true => exact Bool.or_eq_true_iff.mpr (.inr ink)
      | false => exact letters c (mem_trim_of_ink ink mem)
  · rintro ⟨⟨c, mem, ink⟩, letters⟩
    exact ⟨List.ne_nil_of_mem (mem_trim_of_ink ink mem),
      fun d mem => letters d (mem_of_mem_trim mem)⟩

theorem length_pos_of_catalogable {v : String} (h : isCatalogable v = true) :
    1 ≤ v.toList.length := by
  obtain ⟨⟨c, mem, _⟩, _⟩ := isCatalogable_iff.mp h
  exact List.length_pos_of_mem mem

/-! ## Palindromes -/

theorem folded_of_lowered (h : ∀ c ∈ inked s, IsLowered c) : folded s = inked s := by
  rw [folded, List.flatMap_congr (g := fun c => [c]) fun c mem => lowerChar_of_lowered (h c mem)]
  exact List.flatMap_singleton' _

/-- The only character of two in lower case may not be catalogued. -/
theorem isPalindrome_of_catalogable {v : String} (h : isCatalogable v = true)
    (short : v.toList.length < 2) : isPalindrome v.toList = true := by
  obtain ⟨⟨c, mem, ink⟩, letters⟩ := isCatalogable_iff.mp h
  obtain ⟨d, only⟩ : ∃ d, v.toList = [d] :=
    List.length_eq_one_iff.mp (by have := List.length_pos_of_mem mem; omega)
  have letter := letters c mem
  rw [only, List.mem_singleton] at mem
  subst mem
  have plain : c ≠ '\u0130' := by
    rintro rfl
    exact absurd letter (by decide)
  have alone : folded [c] = [Char.ofNat (lowerIn lowerRuns c.toNat)] := by
    simp [folded, inked, ink, lowerChar, plain]
  rw [only, isPalindrome, alone]
  exact beq_self_eq_true _

theorem isPalindrome_iff_of_lowered (h : ∀ c ∈ inked s, IsLowered c) :
    isPalindrome s = true ↔ inked s = (inked s).reverse := by
  rw [isPalindrome, folded_of_lowered h]
  exact beq_iff_eq

/-! ## Short words -/

/-- Letters that stand alone, with a space before each one. -/
def spaced (d : Char) : Nat → List Char
  | 0 => []
  | n + 1 => ' ' :: d :: spaced d n

/-- Words of one letter, `c` and then `n` times `d`, and `k` spaces at the end. -/
def chain (c d : Char) (n k : Nat) : List Char := c :: (spaced d n ++ List.replicate k ' ')

theorem length_spaced (d : Char) (n : Nat) : (spaced d n).length = 2 * n := by
  induction n with
  | zero => rfl
  | succ n ih =>
    rw [spaced, List.length_cons, List.length_cons, ih]
    omega

theorem length_chain (c d : Char) (n k : Nat) : (chain c d n k).length = 2 * n + 1 + k := by
  rw [chain, List.length_cons, List.length_append, length_spaced, List.length_replicate]
  omega

theorem isBlank_replicate (k : Nat) : ∀ x ∈ List.replicate k ' ', isBlank x = true := by
  intro x mem
  rw [List.eq_of_mem_replicate mem]
  exact isBlank_space

theorem length_words_chain (hc : isBlank c = false) (hd : isBlank d = false) (n k : Nat) :
    (words (chain c d n k)).length = n + 1 := by
  induction n generalizing c with
  | zero =>
    cases k with
    | zero => exact congrArg List.length (words_ink hc)
    | succ k =>
      show (words (c :: ' ' :: List.replicate k ' ')).length = 1
      rw [words_ink_blank hc isBlank_space, words_of_blanks (isBlank_replicate k)]
      rfl
  | succ n ih =>
    show (words (c :: ' ' :: chain d d n k)).length = n + 1 + 1
    rw [words_ink_blank hc isBlank_space, List.length_cons, ih hd]

theorem inked_cons (hc : isBlank c = false) (s : List Char) : inked (c :: s) = c :: inked s :=
  List.filter_cons_of_pos (by rw [hc]; rfl)

theorem inked_spaced (hd : isBlank d = false) (n k : Nat) :
    inked (spaced d n ++ List.replicate k ' ') = List.replicate n d := by
  induction n with
  | zero =>
    refine List.filter_eq_nil_iff.mpr fun x mem => ?_
    rw [isBlank_replicate k x mem]
    decide
  | succ n ih =>
    show inked (d :: (spaced d n ++ List.replicate k ' ')) = _
    rw [inked_cons hd, ih]
    rfl

theorem inked_chain (hc : isBlank c = false) (hd : isBlank d = false) (n k : Nat) :
    inked (chain c d n k) = c :: List.replicate n d := by
  rw [chain, inked_cons hc, inked_spaced hd]

theorem letters_of_spaced (hd : 'a' ≤ d ∧ d ≤ 'z') (n : Nat) :
    ∀ x ∈ spaced d n, ('a' ≤ x ∧ x ≤ 'z') ∨ x = ' ' := by
  induction n with
  | zero =>
    intro x mem
    cases mem
  | succ n ih =>
    intro x mem
    rcases List.mem_cons.mp mem with space | mem
    · exact .inr space
    · rcases List.mem_cons.mp mem with rfl | mem
      · exact .inl hd
      · exact ih x mem

theorem letters_of_chain (hc : 'a' ≤ c ∧ c ≤ 'z') (hd : 'a' ≤ d ∧ d ≤ 'z') (n k : Nat) :
    ∀ x ∈ chain c d n k, ('a' ≤ x ∧ x ≤ 'z') ∨ x = ' ' := by
  intro x mem
  rcases List.mem_cons.mp mem with rfl | mem
  · exact .inl hc
  · rcases List.mem_append.mp mem with mem | mem
    · exact letters_of_spaced hd n x mem
    · exact .inr (List.eq_of_mem_replicate mem)

/-- A text that may be catalogued, by what is known of it and a letter in it. -/
structure Measures (s : List Char) (c : Char) (length count : Nat) (palindrome : Bool) : Prop where
  length : s.length = length
  count : (words s).length = count
  palindrome : isPalindrome s = palindrome
  letter : c ∈ s
  catalogable : isCatalogable (String.ofList s) = true

theorem ink_of_latin (low : 'a' ≤ c) (high : c ≤ 'z') : isBlank c = false :=
  isBlank_of_isWord (isWord_of_latin low high)

theorem isCatalogable_of_letters (low : 'a' ≤ c) (high : c ≤ 'z')
    (rest : ∀ x ∈ s, ('a' ≤ x ∧ x ≤ 'z') ∨ x = ' ') :
    isCatalogable (String.ofList (c :: s)) = true := by
  rw [isCatalogable_iff, String.toList_ofList]
  refine ⟨⟨c, List.mem_cons_self, ink_of_latin low high⟩, fun x mem => ?_⟩
  rcases List.mem_cons.mp mem with rfl | mem
  · exact Bool.or_eq_true_iff.mpr (.inl (isAlpha_of_latin low high))
  · rcases rest x mem with ⟨low, high⟩ | rfl
    · exact Bool.or_eq_true_iff.mpr (.inl (isAlpha_of_latin low high))
    · rfl

/-- The same letter all through. -/
theorem measures_same (low : 'a' ≤ c) (high : c ≤ 'z') (n k : Nat) :
    Measures (chain c c n k) c (2 * n + 1 + k) (n + 1) true := by
  have ink := ink_of_latin low high
  refine ⟨length_chain c c n k, length_words_chain ink ink n k, ?_, List.mem_cons_self, ?_⟩
  · have all : inked (chain c c n k) = List.replicate (n + 1) c := inked_chain ink ink n k
    have lowered : ∀ x ∈ inked (chain c c n k), IsLowered x := by
      intro x mem
      rw [all] at mem
      rw [List.eq_of_mem_replicate mem]
      exact isLowered_of_latin low high
    rw [isPalindrome_iff_of_lowered lowered, all, List.reverse_replicate]
  · exact isCatalogable_of_letters low high fun x mem =>
      letters_of_chain ⟨low, high⟩ ⟨low, high⟩ n k x (List.mem_cons_of_mem c mem)

/-- One letter, and then another one, once or more. -/
theorem isPalindrome_of_first {n : Nat} (shown : inked s = c :: List.replicate (n + 1) d)
    (hc : IsLowered c) (hd : IsLowered d) (other : c ≠ d) : isPalindrome s = false := by
  have lowered : ∀ x ∈ inked s, IsLowered x := by
    intro x mem
    rw [shown] at mem
    rcases List.mem_cons.mp mem with rfl | mem
    · exact hc
    · rw [List.eq_of_mem_replicate mem]
      exact hd
  refine Bool.eq_false_iff.mpr fun palindrome => other ?_
  have turned := (isPalindrome_iff_of_lowered lowered).mp palindrome
  rw [shown, List.reverse_cons, List.reverse_replicate, List.replicate_succ,
    List.cons_append] at turned
  exact (List.cons.inj turned).1

theorem exists_other (c : Char) : ∃ d, ('a' ≤ d ∧ d ≤ 'z') ∧ c ≠ d := by
  by_cases same : c = 'a'
  · exact ⟨'b', by decide, by rw [same]; decide⟩
  · exact ⟨'a', by decide, same⟩

/-- A single word with two letters. -/
theorem measures_pair (hc : 'a' ≤ c ∧ c ≤ 'z') (hd : 'a' ≤ d ∧ d ≤ 'z') (other : c ≠ d) (k : Nat) :
    Measures (c :: chain d d 0 k) c (2 + k) 1 false := by
  have ink := ink_of_latin hc.1 hc.2
  have ink' := ink_of_latin hd.1 hd.2
  refine ⟨?_, ?_, ?_, List.mem_cons_self, ?_⟩
  · rw [List.length_cons, length_chain]
    omega
  · rw [chain, words_ink_ink ink ink']
    exact length_words_chain ink' ink' 0 k
  · refine isPalindrome_of_first (n := 0) ?_ (isLowered_of_latin hc.1 hc.2)
      (isLowered_of_latin hd.1 hd.2) other
    rw [inked_cons ink, inked_chain ink' ink']
    rfl
  · exact isCatalogable_of_letters hc.1 hc.2 (letters_of_chain hd hd 0 k)

/-- Words of one letter, the first one another than the rest. -/
theorem measures_first (hc : 'a' ≤ c ∧ c ≤ 'z') (hd : 'a' ≤ d ∧ d ≤ 'z') (other : c ≠ d)
    (n k : Nat) : Measures (chain c d (n + 1) k) c (2 * (n + 1) + 1 + k) (n + 2) false := by
  have ink := ink_of_latin hc.1 hc.2
  have ink' := ink_of_latin hd.1 hd.2
  refine ⟨length_chain c d (n + 1) k, length_words_chain ink ink' (n + 1) k,
    isPalindrome_of_first (inked_chain ink ink' (n + 1) k) (isLowered_of_latin hc.1 hc.2)
      (isLowered_of_latin hd.1 hd.2) other, List.mem_cons_self, ?_⟩
  exact isCatalogable_of_letters hc.1 hc.2 fun x mem =>
    letters_of_chain hc hd (n + 1) k x (List.mem_cons_of_mem c mem)

theorem exists_measures_other (low : 'a' ≤ c) (high : c ≤ 'z') (n k : Nat) :
    ∃ s, Measures s c (max (2 * n + 1) 2 + k) (n + 1) false := by
  obtain ⟨d, latin, other⟩ := exists_other c
  cases n with
  | zero => exact ⟨_, measures_pair ⟨low, high⟩ latin other k⟩
  | succ n =>
    have longest : max (2 * (n + 1) + 1) 2 = 2 * (n + 1) + 1 := by omega
    rw [longest]
    exact ⟨_, measures_first ⟨low, high⟩ latin other n k⟩

theorem exists_measures (low : 'a' ≤ c) (high : c ≤ 'z') (n k : Nat) (b : Bool) :
    ∃ s, Measures s c (max (2 * n + 1) (if b then 1 else 2) + k) (n + 1) b := by
  cases b with
  | true =>
    have shortest : max (2 * n + 1) 1 = 2 * n + 1 := by omega
    refine ⟨chain c c n k, ?_⟩
    rw [if_pos rfl, shortest]
    exact measures_same low high n k
  | false => exact exists_measures_other low high n k

end TextCatalog
