/-!
# TextCatalog.Text.Spans

Sets of code points, written as lists of closed spans.

* `Spans` — spans in ascending order, none of them empty.
* `Spans.covers` — membership, by one pass that stops at the first span past the point.
* `covers_iff` — a point is covered exactly if it lies in one of the spans.
-/

namespace TextCatalog
namespace Text

/-- No span is empty, none starts before `low`, and each starts after the one before it ends. -/
def AscendingFrom (low : Nat) : List (Nat × Nat) → Prop
  | [] => True
  | (first, last) :: rest => low ≤ first ∧ first ≤ last ∧ AscendingFrom (last + 1) rest

instance AscendingFrom.decidable :
    ∀ (low : Nat) (ss : List (Nat × Nat)), Decidable (AscendingFrom low ss)
  | _, [] => .isTrue trivial
  | low, (first, last) :: rest =>
    have := AscendingFrom.decidable (last + 1) rest
    inferInstanceAs (Decidable (low ≤ first ∧ first ≤ last ∧ AscendingFrom (last + 1) rest))

/-- Closed spans of code points, first and last of each. -/
structure Spans where
  list : List (Nat × Nat)
  ascending : AscendingFrom 0 list

namespace Spans

def coveredBy (n : Nat) : List (Nat × Nat) → Bool
  | [] => false
  | (first, last) :: rest =>
    if n < first then false else if n ≤ last then true else coveredBy n rest

def covers (ss : Spans) (n : Nat) : Bool := coveredBy n ss.list

theorem le_of_mem {ss : List (Nat × Nat)} {low : Nat} (order : AscendingFrom low ss) :
    ∀ s ∈ ss, low ≤ s.1 := by
  induction ss generalizing low with
  | nil => intro s mem; cases mem
  | cons t rest ih =>
    obtain ⟨start, nonempty, tail⟩ := order
    intro s mem
    rcases List.mem_cons.mp mem with same | later
    · subst same; exact start
    · have := ih tail s later
      omega

theorem coveredBy_iff {ss : List (Nat × Nat)} {low n : Nat} (order : AscendingFrom low ss) :
    coveredBy n ss = true ↔ ∃ s ∈ ss, s.1 ≤ n ∧ n ≤ s.2 := by
  induction ss generalizing low with
  | nil => simp [coveredBy]
  | cons t rest ih =>
    obtain ⟨_, nonempty, tail⟩ := order
    have beyond := le_of_mem tail
    simp only [coveredBy, List.mem_cons, exists_eq_or_imp]
    split
    · rename_i before
      simp only [Bool.false_eq_true, false_iff, not_or, not_exists, not_and]
      exact ⟨by omega, fun s mem _ _ => by have := beyond s mem; omega⟩
    · split
      · rename_i within
        simp only [true_iff]
        exact .inl ⟨by omega, within⟩
      · rename_i past
        rw [ih tail, or_iff_right (fun h => past h.2)]

/-- The pass misses nothing, since the spans are in order. -/
theorem covers_iff {ss : Spans} {n : Nat} :
    ss.covers n = true ↔ ∃ s ∈ ss.list, s.1 ≤ n ∧ n ≤ s.2 :=
  coveredBy_iff ss.ascending

end Spans

end Text
end TextCatalog
