import Mathlib.Data.List.Basic
import TextCatalog.Proofs.Query.ClauseMatch
import TextCatalog.Proofs.Query.Phrase

/-!
# TextCatalog.Proofs.Query.ClauseOrdinal

No text of clauses asks for a letter by its position. The phrase for it can start anywhere, so that
its openers say nothing; what gives it away is an ordinal right before a kind of letter.

* `isCalm` — no ordinal ending stands before blanks and a kind of letter.
* `not_calm_of_spells` — the phrase stands in no calm text.
* `calm_clauses` — clauses make calm texts: where they say `letter`, they say `the` before it.
-/

namespace TextCatalog
namespace Query

open Pattern Text

variable {prev : Option Char} {s rest : List Char} {xs : List (List Char)}

def letterKinds : List String := ["vowel", "consonant", "letter"]

def ordinalEnds : List Char := ['t', 'd', 'h']

def startsKind (s : List Char) : Bool := letterKinds.any fun w => w.toList.isPrefixOf s

/-- Blanks leave the last character before them in place. -/
def isCalm : Option Char → List Char → Bool
  | _, [] => true
  | prev, c :: s =>
    if isBlank c then !(prev.any ordinalEnds.contains && startsKind s) && isCalm prev s
    else isCalm (some c) s

/-! ## The phrase in a calm text -/

theorem calm_of_append {x : Char} (hx : isBlank x = false) {a b : List Char}
    (h : isCalm prev (a ++ x :: b) = true) : isCalm (some x) b = true := by
  induction a generalizing prev with
  | nil =>
    rw [List.nil_append, isCalm, hx] at h
    exact h
  | cons c a ih =>
    rw [List.cons_append, isCalm] at h
    split at h
    · exact ih (Bool.and_eq_true_iff.mp h).2
    · exact ih h

theorem not_startsKind_of_calm {gap : List Char} (h : IsGap gap)
    (ends : prev.any ordinalEnds.contains = true) (calm : isCalm prev (gap ++ s) = true) :
    startsKind s = false := by
  obtain ⟨ne, all⟩ := h
  induction gap with
  | nil => exact absurd rfl ne
  | cons c gap ih =>
    rw [List.cons_append, isCalm, if_pos (all c List.mem_cons_self), ends] at calm
    obtain ⟨here, later⟩ := Bool.and_eq_true_iff.mp calm
    cases gap with
    | nil => simpa using here
    | cons d gap =>
      exact ih later (List.cons_ne_nil d gap) fun c mem => all c (List.mem_cons_of_mem _ mem)

theorem last_of_any (h : s.getLast?.any ordinalEnds.contains = true) :
    ∃ t x, s = t ++ [x] ∧ x ∈ ordinalEnds := by
  cases last : s.getLast? with
  | none =>
    rw [last] at h
    cases h
  | some x =>
    rw [last] at h
    exact ⟨s.dropLast, x, (List.dropLast_append_getLast? x last).symm, List.contains_iff_mem.mp h⟩

theorem ordinal_last (h : IsOrdinal s) : ∃ t x, s = t ++ [x] ∧ x ∈ ordinalEnds := by
  have words :
      ∀ entry ∈ positionWords, entry.1.toList.getLast?.any ordinalEnds.contains = true := by
    decide
  have endings : ∀ w ∈ ordinalEndings, w.toList.getLast?.any ordinalEnds.contains = true := by
    decide
  cases h with
  | word known => exact last_of_any (words _ known)
  | numeral _ _ known =>
    obtain ⟨t, x, text, ends⟩ := last_of_any (endings _ known)
    rw [text, ← List.append_assoc]
    exact ⟨_, x, rfl, ends⟩

theorem ordinalEnds_isBlank : ordinalEnds.any isBlank = false := by decide

theorem startsKind_of_mem {w : String} (h : w ∈ letterKinds) (s : List Char) :
    startsKind (w.toList ++ s) = true :=
  List.any_eq_true.mpr ⟨w, h, List.isPrefixOf_iff_prefix.mpr (List.prefix_append _ _)⟩

theorem not_calm_of_spells {pre : List Char} (h : ordinalPhrase.Spells prev s rest xs)
    (start : Option Char) : isCalm start (pre ++ (s ++ rest)) = false := by
  obtain ⟨_, scope, _, _, rfl, rfl, h, _⟩ := h
  obtain ⟨_, _, _, _, rfl, rfl, h, _, kind, _⟩ := h
  obtain ⟨_, gap, _, _, rfl, rfl, h, space⟩ := h
  obtain ⟨opening, _, _, _, rfl, rfl, _, _, ordinal, _⟩ := h
  obtain ⟨t, x, rfl, ends⟩ := ordinal_last (isOrdinal_of_spells ordinal).1
  obtain ⟨⟨w, mem, rfl⟩, _⟩ := spells_oneWord_iff.mp kind
  cases calm :
      isCalm start (pre ++ (opening ++ (t ++ [x]) ++ gap ++ w.toList ++ scope ++ rest)) with
  | false => rfl
  | true =>
    have split : pre ++ (opening ++ (t ++ [x]) ++ gap ++ w.toList ++ scope ++ rest) =
        (pre ++ (opening ++ t)) ++ x :: (gap ++ (w.toList ++ (scope ++ rest))) := by
      simp only [List.append_assoc, List.cons_append, List.nil_append]
    rw [split] at calm
    have ink : isBlank x = false :=
      Bool.eq_false_iff.mpr (List.any_eq_false.mp ordinalEnds_isBlank x ends)
    have after := calm_of_append ink calm
    have ends : (some x).any ordinalEnds.contains = true := List.contains_iff_mem.mpr ends
    have none_left := not_startsKind_of_calm (spells_blanks_iff.mp space).1.1 ends after
    rw [startsKind_of_mem mem] at none_left
    cases none_left

/-! ## Clauses -/

theorem startsKind_numeral (n : Nat) (rest : List Char) :
    startsKind (numeral n ++ rest) = false := by
  have digits := @numeral_isDigit n
  have ne := numeral_ne_nil n
  revert digits ne
  cases numeral n with
  | nil => intro _ ne; exact absurd rfl ne
  | cons d ds =>
    intro digits _
    have digit := digits d List.mem_cons_self
    have other : ∀ c : Char, c.isDigit = false → (c == d) = false := by
      intro c no
      refine beq_eq_false_iff_ne.mpr fun same => ?_
      rw [same, digit] at no
      cases no
    simp [startsKind, letterKinds, List.isPrefixOf, other]

theorem calm_word {w : List Char} (h : ∀ c ∈ w, isBlank c = false) (prev : Option Char)
    (rest : List Char) : isCalm prev (w ++ rest) = isCalm (lastOf prev w) rest := by
  induction w generalizing prev with
  | nil => rfl
  | cons c w ih =>
    rw [List.cons_append, isCalm, h c List.mem_cons_self, lastOf_cons]
    exact ih (fun d mem => h d (List.mem_cons_of_mem c mem)) (some c)

theorem calm_numeral (n : Nat) (h : ∀ prev, isCalm prev rest = true) (prev : Option Char) :
    isCalm prev (numeral n ++ rest) = true := by
  rw [calm_word fun c mem => isBlank_of_isWord ((numeral_isWord n).2 c mem)]
  exact h _

theorem calm_space_numeral (n : Nat) (h : ∀ prev, isCalm prev rest = true) (prev : Option Char) :
    isCalm prev (' ' :: (numeral n ++ rest)) = true := by
  rw [isCalm, if_pos isBlank_space, startsKind_numeral, calm_numeral n h, Bool.and_false]
  rfl

theorem calm_text (c : Clause) (h : ∀ prev, isCalm prev rest = true) (prev : Option Char) :
    isCalm prev (c.text ++ rest) = true := by
  cases c with
  | longer n => exact calm_space_numeral n h (some 'n')
  | shorter n => exact calm_space_numeral n h (some 'n')
  -- `least` and `most` end as an ordinal may, and a number comes after them
  | atLeast n => exact calm_space_numeral n h (some 't')
  | atMost n => exact calm_space_numeral n h (some 't')
  | between n m =>
    have last : ∀ prev, isCalm prev (" and ".toList ++ (numeral m ++ rest)) = true := by
      intro prev
      show (!(prev.any ordinalEnds.contains && false) &&
        isCalm (some 'd') (' ' :: (numeral m ++ rest))) = true
      rw [calm_space_numeral m h, Bool.and_false]
      rfl
    have text : (Clause.between n m).text ++ rest =
        "between ".toList ++ (numeral n ++ (" and ".toList ++ (numeral m ++ rest))) := by
      show "between ".toList ++ (numeral n ++ (" and ".toList ++ numeral m)) ++ rest = _
      rw [List.append_assoc, List.append_assoc, List.append_assoc]
    rw [text]
    exact calm_space_numeral n last (some 'n')
  | palindromic => exact h _
  | nonPalindromic => exact h _
  | words k => cases k <;> exact h _
  | letter c =>
    have name : ∀ d ∈ [c.val], isBlank d = false :=
      fun d mem => isBlank_of_isWord ((letter_isWord c).2 d mem)
    show isCalm (some 'r') ([c.val] ++ rest) = true
    rw [calm_word name]
    exact h _

/-- No clause starts with a kind of letter, so that `and` may stand before it. -/
theorem startsKind_text (c : Clause) (rest : List Char) : startsKind (c.text ++ rest) = false := by
  cases c with
  | words k => cases k <;> rfl
  | _ => rfl

theorem calm_clauses (cs : List Clause) (prev : Option Char) :
    isCalm prev (clausesText cs) = true := by
  induction cs generalizing prev with
  | nil => rfl
  | cons c cs ih =>
    cases cs with
    | nil =>
      have alone : isCalm prev (c.text ++ []) = true := calm_text c (fun _ => rfl) prev
      rw [List.append_nil] at alone
      exact alone
    | cons d cs =>
      refine calm_text c (fun prev => ?_) prev
      have start : startsKind (clausesText (d :: cs)) = false := by
        obtain ⟨rest, text, _⟩ := clausesText_cons d cs
        rw [text, startsKind_text]
      show (!(prev.any ordinalEnds.contains && false) &&
        (!(true && startsKind (clausesText (d :: cs))) &&
          isCalm (some 'd') (clausesText (d :: cs)))) = true
      rw [start, ih, Bool.and_false]
      rfl

theorem ordinalPhrase_clauses (cs : List Clause) :
    ordinalPhrase.findLast? (clausesText cs) = none := by
  cases found : ordinalPhrase.findLast? (clausesText cs) with
  | none => rfl
  | some m =>
    obtain ⟨pre, post, text, spells⟩ := spells_of_mem_findAll (mem_findAll_of_findLast? found)
    have calm := calm_clauses cs none
    rw [text, not_calm_of_spells spells] at calm
    cases calm

end Query
end TextCatalog
