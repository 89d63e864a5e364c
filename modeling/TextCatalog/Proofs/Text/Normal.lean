import TextCatalog.Text.Blank
import TextCatalog.Text.Case

/-!
# TextCatalog.Proofs.Text.Normal

Texts that are in normal form already.

* `lowercase_of_lowered` — lower case leaves ASCII without capitals as it is.
* `trim_of_ends`, `trim_of_blanks` — nothing is trimmed where no blank stands at an end, and all of
  a text that is blank.
-/

namespace TextCatalog
namespace Text

/-- A character of ASCII that is no capital. -/
def IsLowered (c : Char) : Prop := c.toNat < 128 ∧ ¬(65 ≤ c.toNat ∧ c.toNat ≤ 90)

instance (c : Char) : Decidable (IsLowered c) :=
  inferInstanceAs (Decidable (c.toNat < 128 ∧ ¬(65 ≤ c.toNat ∧ c.toNat ≤ 90)))

theorem lowerChar_of_lowered {c : Char} (h : IsLowered c) : lowerChar c = [c] := by
  have fixed : ∀ n < 128, ¬(65 ≤ n ∧ n ≤ 90) → lowerIn lowerRuns n = n := by decide
  have other : c ≠ '\u0130' := by
    rintro rfl
    exact absurd h (by decide)
  rw [lowerChar, if_neg other, fixed c.toNat h.1 h.2, Char.ofNat_toNat]

theorem lowerAfter_of_lowered {s : List Char} (h : ∀ c ∈ s, IsLowered c) (before : List Char) :
    lowerAfter before s = s := by
  induction s generalizing before with
  | nil => rfl
  | cons c s ih =>
    have lowered := h c List.mem_cons_self
    have other : c ≠ 'Σ' := by
      rintro rfl
      exact absurd lowered (by decide)
    rw [lowerAfter, if_neg other, lowerChar_of_lowered lowered,
      ih fun d mem => h d (List.mem_cons_of_mem c mem)]
    rfl

theorem lowercase_of_lowered {s : List Char} (h : ∀ c ∈ s, IsLowered c) : lowercase s = s :=
  lowerAfter_of_lowered h []

theorem isLowered_of_digit {c : Char} (h : c.isDigit = true) : IsLowered c := by
  obtain ⟨low, high⟩ := Bool.and_eq_true_iff.mp h
  have low : 48 ≤ c.toNat := of_decide_eq_true low
  have high : c.toNat ≤ 57 := of_decide_eq_true high
  unfold IsLowered
  omega

theorem isLowered_of_latin {c : Char} (low : 'a' ≤ c) (high : c ≤ 'z') : IsLowered c := by
  have low : 97 ≤ c.toNat := low
  have high : c.toNat ≤ 122 := high
  unfold IsLowered
  omega

theorem dropWhile_of_head {s : List Char} (h : ∀ c ∈ s.head?, isBlank c = false) :
    s.dropWhile isBlank = s := by
  cases s with
  | nil => rfl
  | cons c s => exact List.dropWhile_cons_of_neg (by rw [h c rfl]; decide)

theorem trim_of_ends {s : List Char} (first : ∀ c ∈ s.head?, isBlank c = false)
    (last : ∀ c ∈ s.getLast?, isBlank c = false) : trim s = s := by
  rw [trim, trimStart, dropWhile_of_head first, trimEnd, dropWhile_of_head, List.reverse_reverse]
  rw [List.head?_reverse]
  exact last

theorem trim_of_blanks {s : List Char} (blank : ∀ c ∈ s, isBlank c = true) : trim s = [] := by
  have all : s.dropWhile isBlank = [] := by
    induction s with
    | nil => rfl
    | cons c s ih =>
      rw [List.dropWhile_cons_of_pos (blank c List.mem_cons_self)]
      exact ih fun d mem => blank d (List.mem_cons_of_mem c mem)
  rw [trim, trimStart, all]
  rfl

end Text
end TextCatalog
