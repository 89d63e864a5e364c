import Mathlib.Data.List.Basic
import Mathlib.Data.List.TakeWhile
import TextCatalog.Proofs.Text.Normal
import TextCatalog.Text.Word

/-!
# TextCatalog.Proofs.Text.Context

What becomes of a part of a text when the whole text is put into lower case and trimmed.

* `isKept_of_isDigit` — digits of any script stay as they are.
* `lowerAfter_append` — what a part becomes does not depend on what stands after it.
* `lowerAfter_of_break` — except for a final sigma, and for that only up to the next break.
* `trim_part` — a part between blanks stays.
* `trim_extend` — what follows a text stays, with the blanks before it.
* `trim_split`, `trim_between` — what is trimmed is blank, and all blanks at the ends are.
-/

namespace TextCatalog
namespace Text

variable {s p gap rest : List Char} {x : Char}

/-! ## Lower case -/

/-- A character that is its own lower case, whatever stands around it. -/
def IsKept (c : Char) : Prop := c ≠ 'Σ' ∧ lowerChar c = [c]

instance (c : Char) : Decidable (IsKept c) :=
  inferInstanceAs (Decidable (c ≠ 'Σ' ∧ lowerChar c = [c]))

theorem isKept_of_lowered {c : Char} (h : IsLowered c) : IsKept c := by
  refine ⟨?_, lowerChar_of_lowered h⟩
  rintro rfl
  exact absurd h (by decide)

theorem lowerIn_of_apart {runs : List CaseRun} {n : Nat}
    (apart : ∀ r ∈ runs, n < r.first ∨ r.last < n) : lowerIn runs n = n := by
  induction runs with
  | nil => rfl
  | cons r runs ih =>
    rw [lowerIn]
    split
    · rfl
    · rename_i above
      have beyond := (apart r List.mem_cons_self).resolve_left above
      have outside : r.applies n = false := by
        rw [CaseRun.applies, decide_eq_false (Nat.not_le.mpr beyond), Bool.false_and]
      rw [outside]
      exact ih fun r' mem => apart r' (List.mem_cons_of_mem r mem)

theorem isKept_of_isDigit {c : Char} (h : isDigit c = true) : IsKept c := by
  have apart : ∀ s ∈ digitSpans.list, ∀ r ∈ lowerRuns, s.2 < r.first ∨ r.last < s.1 := by
    decide +kernel
  have noSigma : c ≠ 'Σ' := by
    rintro rfl
    exact absurd h (by decide)
  have noDotted : c ≠ '\u0130' := by
    rintro rfl
    exact absurd h (by decide)
  obtain ⟨s, mem, low, high⟩ := Spans.covers_iff.mp h
  have same : lowerIn lowerRuns c.toNat = c.toNat := by
    refine lowerIn_of_apart fun r run => ?_
    rcases apart s mem r run with below | above
    · exact .inl (by omega)
    · exact .inr (by omega)
  exact ⟨noSigma, by rw [lowerChar, if_neg noDotted, same, Char.ofNat_toNat]⟩

theorem lowerAfter_of_kept (h : ∀ c ∈ p, IsKept c) (before rest : List Char) :
    lowerAfter before (p ++ rest) = p ++ lowerAfter (p.reverse ++ before) rest := by
  induction p generalizing before with
  | nil => rfl
  | cons c p ih =>
    obtain ⟨other, same⟩ := h c List.mem_cons_self
    rw [List.cons_append, lowerAfter, if_neg other, same,
      ih fun d mem => h d (List.mem_cons_of_mem c mem), List.reverse_cons, List.append_assoc]
    rfl

theorem lowercase_of_kept (h : ∀ c ∈ s, IsKept c) : lowercase s = s := by
  have same := lowerAfter_of_kept h [] []
  rw [List.append_nil] at same
  exact same.trans (List.append_nil s)

/-- The text after a part is put into lower case by itself, given what stands before it. -/
theorem lowerAfter_append (before s rest : List Char) :
    ∃ t, lowerAfter before (s ++ rest) = t ++ lowerAfter (s.reverse ++ before) rest := by
  induction s generalizing before with
  | nil => exact ⟨[], rfl⟩
  | cons c s ih =>
    obtain ⟨t, split⟩ := ih (c :: before)
    refine ⟨(if c = 'Σ' then [lowerSigma before (s ++ rest)] else lowerChar c) ++ t, ?_⟩
    rw [List.cons_append, lowerAfter, split, List.append_assoc, List.reverse_cons,
      List.append_assoc]
    rfl

/-- No search for a cased character goes past a break, and none ends there with success. -/
def IsBreak (c : Char) : Prop := isCaseIgnorable c = false ∧ isCased c = false

instance (c : Char) : Decidable (IsBreak c) :=
  inferInstanceAs (Decidable (isCaseIgnorable c = false ∧ isCased c = false))

theorem isBreak_comma : IsBreak ',' := by decide

theorem meetsCased_of_break (h : IsBreak x) (s rest : List Char) :
    meetsCased (s ++ x :: rest) = meetsCased s := by
  have stop : (x :: rest).dropWhile isCaseIgnorable = x :: rest :=
    List.dropWhile_cons_of_neg (Bool.eq_false_iff.mp h.1)
  unfold meetsCased
  rw [List.dropWhile_append, stop]
  cases s.dropWhile isCaseIgnorable with
  | nil => exact h.2
  | cons c s => rfl

theorem lowerAfter_of_break (h : IsBreak x) (before s rest : List Char) :
    lowerAfter before (s ++ x :: rest) =
      lowerAfter before s ++ lowerAfter (s.reverse ++ before) (x :: rest) := by
  induction s generalizing before with
  | nil => rfl
  | cons c s ih =>
    rw [List.cons_append, lowerAfter, lowerAfter, ih, List.append_assoc, List.reverse_cons,
      List.append_assoc, lowerSigma, lowerSigma, meetsCased_of_break h]
    rfl

theorem lowercase_extend (h : IsBreak x) (lowered : ∀ c ∈ x :: rest, IsLowered c)
    (s : List Char) : lowercase (s ++ x :: rest) = lowercase s ++ x :: rest := by
  rw [lowercase, lowerAfter_of_break h, lowerAfter_of_lowered lowered]
  rfl

/-! ## Blanks at the ends -/

theorem dropWhile_blanks (blank : isBlank x = true) (ink : ∀ c ∈ rest.head?, isBlank c = false)
    (s : List Char) :
    ∃ t, (s ++ x :: rest).dropWhile isBlank = t ++ rest ∧ ∀ c ∈ t.getLast?, c = x := by
  have skipped : (x :: rest).dropWhile isBlank = rest := by
    rw [List.dropWhile_cons_of_pos blank, dropWhile_of_head ink]
  rw [List.dropWhile_append, skipped]
  split
  · refine ⟨[], rfl, ?_⟩
    rintro c ⟨⟩
  · refine ⟨s.dropWhile isBlank ++ [x], by rw [List.append_assoc]; rfl, ?_⟩
    intro c last
    rw [List.getLast?_append] at last
    exact (Option.some.inj last).symm

/-- A part between blanks that has none at its own ends stays, with at most a blank at its side. -/
theorem trim_part (blank : isBlank x = true) (ne : p ≠ [])
    (first : ∀ c ∈ p.head?, isBlank c = false) (last : ∀ c ∈ p.getLast?, isBlank c = false)
    (before after : List Char) :
    ∃ a b, trim (before ++ x :: (p ++ x :: after)) = a ++ (p ++ b) ∧
      (∀ c ∈ a.getLast?, c = x) ∧ ∀ c ∈ b.head?, c = x := by
  have start : ∀ c ∈ (p ++ x :: after).head?, isBlank c = false := by
    rwa [List.head?_append_of_ne_nil p ne]
  obtain ⟨a, kept, side⟩ := dropWhile_blanks blank start before
  have finish : ∀ c ∈ (p.reverse ++ a.reverse).head?, isBlank c = false := by
    rwa [List.head?_append_of_ne_nil _ (List.reverse_ne_nil_iff.mpr ne), List.head?_reverse]
  obtain ⟨b, kept', side'⟩ := dropWhile_blanks blank finish after.reverse
  refine ⟨a, b.reverse, ?_, side, ?_⟩
  · have turned : (a ++ (p ++ x :: after)).reverse =
        after.reverse ++ x :: (p.reverse ++ a.reverse) := by
      simp
    rw [trim, trimStart, kept, trimEnd, turned, kept']
    simp
  · rwa [List.head?_reverse]

theorem trimEnd_append_gap (s : List Char) :
    ∃ gap, s = trimEnd s ++ gap ∧ ∀ c ∈ gap, isBlank c = true := by
  refine ⟨(s.reverse.takeWhile isBlank).reverse, ?_, ?_⟩
  · rw [trimEnd, ← List.reverse_append, List.takeWhile_append_dropWhile, List.reverse_reverse]
  · intro c mem
    exact List.mem_takeWhile_imp (List.mem_reverse.mp mem)

theorem head?_dropWhile_blank (s : List Char) : ∀ c ∈ (s.dropWhile isBlank).head?,
    isBlank c = false := by
  intro c first
  have := List.head?_dropWhile_not isBlank s
  rw [first] at this
  simpa using this

/-- A text that is not blank keeps its last blanks when something other than a blank ends it. -/
theorem trim_extend (ink : trim s ≠ []) (ne : rest ≠ [])
    (last : ∀ c ∈ rest.getLast?, isBlank c = false) :
    ∃ gap, trim (s ++ rest) = trim s ++ (gap ++ rest) ∧ ∀ c ∈ gap, isBlank c = true := by
  obtain ⟨gap, split, blank⟩ := trimEnd_append_gap (trimStart s)
  have inside : (s.dropWhile isBlank).isEmpty = false := by
    rw [List.isEmpty_eq_false_iff]
    intro empty
    exact ink (by rw [trim, trimStart, empty]; rfl)
  have finish : ∀ c ∈ (trimStart s ++ rest).reverse.head?, isBlank c = false := by
    rwa [List.head?_reverse, List.getLast?_append_of_ne_nil _ ne]
  refine ⟨gap, ?_, blank⟩
  rw [trim, trimStart, List.dropWhile_append, inside, if_neg (by decide), ← trimStart, trimEnd,
    dropWhile_of_head finish, List.reverse_reverse, ← List.append_assoc, trim, ← split]

theorem trim_last (s : List Char) : ∀ c ∈ (trim s).getLast?, isBlank c = false := by
  rw [trim, trimEnd, List.getLast?_reverse]
  exact head?_dropWhile_blank _

theorem trim_split (s : List Char) : ∃ before after, s = before ++ trim s ++ after ∧
    (∀ c ∈ before, isBlank c = true) ∧ ∀ c ∈ after, isBlank c = true := by
  obtain ⟨after, split, blank⟩ := trimEnd_append_gap (trimStart s)
  refine ⟨s.takeWhile isBlank, after, ?_, fun c => List.mem_takeWhile_imp, blank⟩
  rw [trim, List.append_assoc, ← split, trimStart, List.takeWhile_append_dropWhile]

theorem trim_between {before after : List Char} (ne : p ≠ [])
    (first : ∀ c ∈ p.head?, isBlank c = false) (last : ∀ c ∈ p.getLast?, isBlank c = false)
    (blank : ∀ c ∈ before, isBlank c = true) (blank' : ∀ c ∈ after, isBlank c = true) :
    trim (before ++ p ++ after) = p := by
  have start : ∀ c ∈ (p ++ after).head?, isBlank c = false := by
    rwa [List.head?_append_of_ne_nil p ne]
  have finish : ∀ c ∈ p.reverse.head?, isBlank c = false := by
    rwa [List.head?_reverse]
  have turned : ∀ c ∈ after.reverse, isBlank c = true := fun c mem =>
    blank' c (List.mem_reverse.mp mem)
  rw [trim, trimStart, List.append_assoc, List.dropWhile_append_of_pos blank,
    dropWhile_of_head start, trimEnd, List.reverse_append, List.dropWhile_append_of_pos turned,
    dropWhile_of_head finish, List.reverse_reverse]

end Text
end TextCatalog
