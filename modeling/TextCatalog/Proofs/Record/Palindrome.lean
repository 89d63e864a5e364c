import Mathlib.Logic.Relation
import TextCatalog.Filter.Basic
import TextCatalog.Proofs.Record.Measures

/-!
# TextCatalog.Proofs.Record.Palindrome

What the test for palindromes passes over, and what it compares.

* `Retouch` — a blank is put in or taken out anywhere, or a letter of ASCII changes its case.
* `isPalindrome_of_retouches` — the test notices none of these, however many there are.
* `folded_of_catalogable` — of a text that may be catalogued it sees the letters, in lower case.
* `isPalindrome_insensitive` — so such a text may be turned round, and is a palindrome when its
  letters agree from both ends.
-/

namespace TextCatalog

open Text

variable {c : Char} {s t : List Char} {v : String}

/-! ## Single characters -/

/-- The other case of a letter of ASCII. Any other character stays. -/
def swapCase (c : Char) : Char := if c.isUpper then c.toLower else c.toUpper

theorem swapCase_of_beyond (h : ¬c.toNat < 128) : swapCase c = c := by
  have beyond : ¬c.val.toNat < 128 := h
  have upper : ¬c.isUpper = true := by
    intro upper
    have within : 'A' ≤ c ∧ c ≤ 'Z' := of_decide_eq_true upper
    have : c.val.toNat ≤ 90 := within.2
    omega
  have lower : c.toUpper = c := by
    refine dif_neg fun within => ?_
    have : c.val.toNat ≤ 122 := within.2
    omega
  rw [swapCase, if_neg upper, lower]

theorem folded_swapCase (c : Char) : folded [swapCase c] = folded [c] := by
  by_cases low : c.toNat < 128
  · exact forall_ascii (P := fun c => folded [swapCase c] = folded [c]) (by decide) low
  · rw [swapCase_of_beyond low]

theorem folded_blank (blank : isBlank c = true) : folded [c] = [] := by
  simp [folded, inked, blank]

theorem lowerChar_of_ascii (h : c.toNat < 128) : lowerChar c = [c.toLower] :=
  forall_ascii (P := fun c => lowerChar c = [c.toLower]) (by decide) h

/-! ## Changes that are not noticed -/

theorem folded_append (s t : List Char) : folded (s ++ t) = folded s ++ folded t := by
  simp [folded, inked]

theorem folded_part (before after : List Char) (c : Char) :
    folded (before ++ c :: after) = folded before ++ folded [c] ++ folded after := by
  rw [← List.singleton_append, folded_append, folded_append, List.append_assoc]

inductive Retouch : List Char → List Char → Prop where
  | putIn {c : Char} (before after : List Char) (blank : isBlank c = true) :
    Retouch (before ++ after) (before ++ c :: after)
  | takeOut {c : Char} (before after : List Char) (blank : isBlank c = true) :
    Retouch (before ++ c :: after) (before ++ after)
  | recase (before after : List Char) (c : Char) :
    Retouch (before ++ c :: after) (before ++ swapCase c :: after)

theorem Retouch.folded_eq (h : Retouch s t) : folded s = folded t := by
  cases h with
  | putIn before after blank =>
    rw [folded_part, folded_blank blank, List.append_nil, folded_append]
  | takeOut before after blank =>
    rw [folded_part, folded_blank blank, List.append_nil, folded_append]
  | recase before after c => rw [folded_part, folded_part, folded_swapCase]

theorem folded_of_retouches (h : Relation.ReflTransGen Retouch s t) : folded s = folded t := by
  induction h with
  | refl => rfl
  | tail _ last ih => exact ih.trans last.folded_eq

theorem isPalindrome_of_retouches (h : Relation.ReflTransGen Retouch s t) :
    isPalindrome s = isPalindrome t := by
  rw [isPalindrome, isPalindrome, folded_of_retouches h]

/-! ## Texts that may be catalogued -/

def letters (s : List Char) : List Char := s.filter Char.isAlpha

theorem ascii_of_isAlpha (h : c.isAlpha = true) : c.toNat < 128 := by
  have bounds := bounds_of_isAlpha h
  omega

theorem isBlank_of_isAlpha (h : c.isAlpha = true) : isBlank c = false := by
  have bounds := bounds_of_isAlpha h
  have low : 33 ≤ c.toNat := by omega
  have high : c.toNat ≤ 126 := by omega
  exact isBlank_of_printable low high

theorem inked_of_catalogable (h : isCatalogable v = true) :
    inked v.toList = letters v.toList := by
  refine List.filter_congr fun c mem => ?_
  rcases Bool.or_eq_true_iff.mp ((isCatalogable_iff.mp h).2 c mem) with letter | blank
  · rw [letter, isBlank_of_isAlpha letter]
    rfl
  · cases letter : c.isAlpha with
    | false =>
      rw [blank]
      rfl
    | true =>
      rw [isBlank_of_isAlpha letter] at blank
      cases blank

/-- No letter of such a text has a lower case of two characters. -/
theorem folded_of_catalogable (h : isCatalogable v = true) :
    folded v.toList = (letters v.toList).map Char.toLower := by
  rw [folded, inked_of_catalogable h, List.map_eq_flatMap]
  refine List.flatMap_congr fun c mem => ?_
  exact lowerChar_of_ascii (ascii_of_isAlpha (List.mem_filter.mp mem).2)

theorem isCatalogable_reverse (h : isCatalogable v = true) :
    isCatalogable (String.ofList v.toList.reverse) = true := by
  obtain ⟨⟨c, mem, ink⟩, letters⟩ := isCatalogable_iff.mp h
  rw [isCatalogable_iff, String.toList_ofList]
  exact ⟨⟨c, List.mem_reverse.mpr mem, ink⟩, fun d mem => letters d (List.mem_reverse.mp mem)⟩

theorem folded_reverse (h : isCatalogable v = true) :
    folded v.toList.reverse = (folded v.toList).reverse := by
  have turned := folded_of_catalogable (isCatalogable_reverse h)
  rw [String.toList_ofList] at turned
  rw [turned, folded_of_catalogable h, letters, letters, List.filter_reverse, List.map_reverse]

theorem isPalindrome_iff : isPalindrome s = true ↔ folded s = (folded s).reverse := beq_iff_eq

theorem isPalindrome_reverse (h : isCatalogable v = true) :
    isPalindrome v.toList.reverse = isPalindrome v.toList := by
  rw [Bool.eq_iff_iff, isPalindrome_iff, isPalindrome_iff, folded_reverse h, List.reverse_reverse]
  exact eq_comm

/-- Beyond ASCII a lower case can be two characters, which are not turned round with the text. -/
example : isPalindrome ['\u0130', '\u0307', 'i'] = true ∧
    isPalindrome ['\u0130', '\u0307', 'i'].reverse = false := by decide

theorem isPalindrome_append_reverse (h : isCatalogable v = true) :
    isPalindrome (v.toList ++ v.toList.reverse) = true := by
  rw [isPalindrome_iff, folded_append, folded_reverse h, List.reverse_append,
    List.reverse_reverse]

/-- The characters at the same distance from both ends are the same letter. -/
def AgreesFromEnds (s : List Char) : Prop :=
  ∀ (i : Nat) (a b : Char), s[i]? = some a → s.reverse[i]? = some b → Filter.sameLetter a b = true

theorem agreesFromEnds_iff : AgreesFromEnds s ↔
    s.map Char.toLower = (s.map Char.toLower).reverse := by
  rw [← List.map_reverse]
  constructor
  · intro agrees
    refine List.ext_getElem (by simp) fun i low high => ?_
    rw [List.getElem_map, List.getElem_map]
    exact beq_iff_eq.mp (agrees i _ _ (List.getElem?_eq_getElem _) (List.getElem?_eq_getElem _))
  · intro same i a b front back
    have mapped : (s.map Char.toLower)[i]? = (s.reverse.map Char.toLower)[i]? := by rw [same]
    rw [List.getElem?_map, List.getElem?_map, front, back] at mapped
    exact beq_iff_eq.mpr (Option.some.inj mapped)

/--
Blanks and the case of letters of ASCII are of no account to the test in any text. A text that may
be catalogued is a palindrome when it is one backwards, makes one with itself backwards, and is one
exactly if its letters agree from both ends.
-/
theorem isPalindrome_insensitive :
    (∀ s t, Relation.ReflTransGen Retouch s t → isPalindrome s = isPalindrome t) ∧
    ∀ v : String, isCatalogable v = true →
      isPalindrome v.toList.reverse = isPalindrome v.toList ∧
      isPalindrome (v.toList ++ v.toList.reverse) = true ∧
      (isPalindrome v.toList = true ↔ AgreesFromEnds (letters v.toList)) := by
  refine ⟨fun s t => isPalindrome_of_retouches, fun v h => ⟨isPalindrome_reverse h,
    isPalindrome_append_reverse h, ?_⟩⟩
  rw [agreesFromEnds_iff, isPalindrome_iff, folded_of_catalogable h]

/-- Two cases are changed, a space goes and a wider blank comes. -/
theorem isPalindrome_insensitive_noon :
    isPalindrome "No on".toList = isPalindrome "nO\u2003on".toList ∧
      AgreesFromEnds (letters "No on".toList) := by
  have noSpace : Retouch "No on".toList "Noon".toList := .takeOut ['N', 'o'] ['o', 'n'] rfl
  have small : Retouch "Noon".toList "noon".toList := .recase [] ['o', 'o', 'n'] 'N'
  have large : Retouch "noon".toList "nOon".toList := .recase ['n'] ['o', 'n'] 'o'
  have wider : Retouch "nOon".toList "nO\u2003on".toList := .putIn ['n', 'O'] ['o', 'n'] rfl
  refine ⟨isPalindrome_insensitive.1 _ _ ?_, ?_⟩
  · exact .tail (.tail (.tail (.single noSpace) small) large) wider
  · exact (isPalindrome_insensitive.2 "No on" (by decide)).2.2.mp (by decide)

end TextCatalog
