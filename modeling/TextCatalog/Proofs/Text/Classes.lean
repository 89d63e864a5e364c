import TextCatalog.Text.Blank
import TextCatalog.Text.Word

/-!
# TextCatalog.Proofs.Text.Classes

How the classes of characters lie to each other.

* `isWord_of_isBlank`, `isDigit_of_isBlank` — no character is blank and in a word or a digit.
* `isWord_of_latin`, `isWord_of_digit` — the letters `a` to `z` and the digits `0` to `9` are.
* `bounds_of_isAlpha` — the letters of either case as code points.
-/

namespace TextCatalog
namespace Text

theorem Spans.forall_of_covers {ss : Spans} {P : Nat → Prop} {n : Nat} (h : ss.covers n = true)
    (all : ∀ s ∈ ss.list, ∀ i < s.2 + 1 - s.1, P (s.1 + i)) : P n := by
  obtain ⟨s, mem, low, high⟩ := Spans.covers_iff.mp h
  have at_point := all s mem (n - s.1) (by omega)
  rw [show s.1 + (n - s.1) = n by omega] at at_point
  exact at_point

theorem isWord_of_isBlank {c : Char} (h : isBlank c = true) : isWord c = false :=
  Spans.forall_of_covers (P := fun n => wordSpans.covers n = false) h (by decide +kernel)

theorem isDigit_of_isBlank {c : Char} (h : isBlank c = true) : isDigit c = false :=
  Spans.forall_of_covers (P := fun n => digitSpans.covers n = false) h (by decide +kernel)

theorem isBlank_of_isWord {c : Char} (h : isWord c = true) : isBlank c = false := by
  cases blank : isBlank c with
  | false => rfl
  | true =>
    rw [isWord_of_isBlank blank] at h
    cases h

theorem forall_ascii {P : Char → Prop} {c : Char} (all : ∀ n < 128, P (Char.ofNat n))
    (h : c.toNat < 128) : P c := by
  have holds := all c.toNat h
  rwa [Char.ofNat_toNat] at holds

theorem isBlank_of_printable {c : Char} (low : '!' ≤ c) (high : c ≤ '~') : isBlank c = false := by
  have low : 33 ≤ c.toNat := low
  have high : c.toNat ≤ 126 := high
  have all : ∀ i < 94, blankSpans.covers (33 + i) = false := by decide
  obtain ⟨i, same⟩ := Nat.exists_eq_add_of_le low
  rw [isBlank, same]
  exact all i (by omega)

theorem isWord_of_latin {c : Char} (low : 'a' ≤ c) (high : c ≤ 'z') : isWord c = true := by
  have low : 97 ≤ c.toNat := low
  have high : c.toNat ≤ 122 := high
  exact Spans.covers_iff.mpr ⟨(97, 122), by decide, low, high⟩

theorem isAlpha_of_latin {c : Char} (low : 'a' ≤ c) (high : c ≤ 'z') : c.isAlpha = true := by
  have small : c.isLower = true :=
    Bool.and_eq_true_iff.mpr ⟨decide_eq_true low, decide_eq_true high⟩
  exact Bool.or_eq_true_iff.mpr (.inr small)

theorem bounds_of_isAlpha {c : Char} (h : c.isAlpha = true) :
    (65 ≤ c.toNat ∧ c.toNat ≤ 90) ∨ (97 ≤ c.toNat ∧ c.toNat ≤ 122) := by
  rcases Bool.or_eq_true_iff.mp h with upper | lower
  · have within : 'A' ≤ c ∧ c ≤ 'Z' := of_decide_eq_true upper
    exact .inl within
  · obtain ⟨low, high⟩ := Bool.and_eq_true_iff.mp lower
    exact .inr ⟨of_decide_eq_true low, of_decide_eq_true high⟩

theorem isWord_of_digit {c : Char} (h : c.isDigit = true) : isWord c = true := by
  obtain ⟨low, high⟩ := Bool.and_eq_true_iff.mp h
  have low : 48 ≤ c.toNat := of_decide_eq_true low
  have high : c.toNat ≤ 57 := of_decide_eq_true high
  exact Spans.covers_iff.mpr ⟨(48, 57), by decide, low, high⟩

end Text
end TextCatalog
