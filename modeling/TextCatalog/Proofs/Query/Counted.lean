import TextCatalog.Proofs.Filter.Document
import TextCatalog.Proofs.Query.Fields

/-!
# TextCatalog.Proofs.Query.Counted

The bounds that a query asks for are counts of 64 bits, so that they can be written and read as
such.

* `numberOf?_lt` — a token names a count or nothing.
* `Bounds.IsCounted` — what each family of length phrases keeps of the bounds.
* `boundsOf_counted`, `isCounted_of_parse` — all families, and the whole filter.
-/

namespace TextCatalog
namespace Query

open Text

theorem lookup_numberWords_lt {word : List Char} {n : Nat} (h : lookup numberWords word = some n) :
    n < counts := by
  have small : ∀ entry ∈ numberWords, entry.2 < counts := by decide
  obtain ⟨entry, found, rfl⟩ := Option.map_eq_some_iff.mp h
  exact small entry (List.mem_of_find?_eq_some found)

theorem numberOf?_lt {token : List Char} {n : Nat} (h : numberOf? token = some n) : n < counts := by
  rcases Option.or_eq_some_iff.mp h with digits | ⟨_, word⟩
  · exact (count?_eq_some_iff.mp digits).2.2
  · exact lookup_numberWords_lt word

theorem numbersOf_lt {p : Pattern} {s : List Char} : ∀ n ∈ numbersOf p s, n < counts := by
  intro n mem
  obtain ⟨m, _, number⟩ := List.mem_filterMap.mp mem
  exact numberOf?_lt number

/-! ## Bounds -/

namespace Bounds

structure IsCounted (b : Bounds) : Prop where
  least : ∀ n ∈ b.least, n < counts
  most : ∀ n ∈ b.most, n < counts

theorem isCounted_none : IsCounted ⟨none, none⟩ := by
  constructor <;> (intro n mem; cases mem)

variable {b : Bounds} {n : Nat}

theorem IsCounted.raise (h : b.IsCounted) (hn : n < counts) : (b.raise n).IsCounted := by
  refine ⟨?_, h.most⟩
  rintro m ⟨⟩
  cases set : b.least with
  | none => exact hn
  | some k => exact Nat.max_lt.mpr ⟨h.least k set, hn⟩

theorem IsCounted.lower (h : b.IsCounted) (hn : n < counts) : (b.lower n).IsCounted := by
  refine ⟨h.least, ?_⟩
  rintro m ⟨⟩
  cases b.most with
  | none => exact hn
  | some k => exact Nat.lt_of_le_of_lt (Nat.min_le_right k n) hn

theorem IsCounted.longerThan (h : b.IsCounted) (n : Nat) : (b.longerThan n).IsCounted := by
  have fits : above n < counts := Nat.lt_of_le_of_lt (Nat.min_le_right _ _) (by decide)
  exact h.raise fits

theorem IsCounted.shorterThan (h : b.IsCounted) (hn : n < counts) {b' : Bounds}
    (read : b.shorterThan n = .ok b') : b'.IsCounted := by
  cases n with
  | zero => cases read
  | succ n =>
    cases read
    exact h.lower (Nat.lt_of_succ_lt hn)

theorem isCounted_ofRange {low high : List Char} (read : ofRange low high = .ok b) :
    b.IsCounted := by
  unfold ofRange at read
  split at read
  · rename_i l h first second
    split at read
    · cases read
      constructor
      · rintro m ⟨⟩
        exact numberOf?_lt first
      · rintro m ⟨⟩
        exact numberOf?_lt second
    · cases read
  · cases read

end Bounds

/-! ## Families of phrases -/

theorem foldlM_keeps {ε α β : Type} {P : β → Prop} {f : β → α → Except ε β} {l : List α}
    (step : ∀ b, ∀ a ∈ l, P b → ∀ b', f b a = .ok b' → P b') {b b' : β} (h : P b)
    (read : l.foldlM f b = .ok b') : P b' := by
  induction l generalizing b with
  | nil =>
    cases read
    exact h
  | cons a l ih =>
    rw [List.foldlM_cons] at read
    cases first : f b a with
    | error e =>
      rw [first] at read
      cases read
    | ok c =>
      rw [first] at read
      exact ih (fun b x mem => step b x (List.mem_cons_of_mem a mem))
        (step b a List.mem_cons_self h c first) read

theorem boundsOf_counted {s : List Char} {b : Bounds} (h : boundsOf s = .ok b) : b.IsCounted := by
  unfold boundsOf readBounds at h
  have longer : ((numbersOf longerPhrase s).foldl Bounds.longerThan ⟨none, none⟩).IsCounted :=
    List.foldlRecOn _ _ Bounds.isCounted_none fun _ kept n _ => kept.longerThan n
  cases shorter : (numbersOf shorterPhrase s).foldlM Bounds.shorterThan
      ((numbersOf longerPhrase s).foldl Bounds.longerThan ⟨none, none⟩) with
  | error e =>
    simp only [shorter, bind, Except.bind] at h
    cases h
  | ok b₁ =>
    have kept : b₁.IsCounted :=
      foldlM_keeps (fun _ n mem kept _ read => kept.shorterThan (numbersOf_lt n mem) read)
        longer shorter
    cases between : (betweenPhrase.findAll s).foldlM (fun _ m => rangeOf m) b₁ with
    | error e =>
      simp only [shorter, between, bind, Except.bind] at h
      cases h
    | ok b₂ =>
      -- A range replaces the bounds before it, so nothing need be known of them.
      have kept : b₂.IsCounted :=
        foldlM_keeps (fun _ _ _ _ _ read => Bounds.isCounted_ofRange read) kept between
      simp only [shorter, between, bind, Except.bind] at h
      cases h
      have raised : ((numbersOf atLeastPhrase s).foldl Bounds.raise b₂).IsCounted :=
        List.foldlRecOn _ _ kept fun _ kept n mem => kept.raise (numbersOf_lt n mem)
      exact List.foldlRecOn _ _ raised fun _ kept n mem => kept.lower (numbersOf_lt n mem)

/-! ## The whole filter -/

/-- The filter of a query can be written down: its bounds are counts and its letter is Latin. -/
theorem isCounted_of_parse {s : String} {q : Query} (h : parse s = .ok q) :
    q.filter.IsCounted ∧ ∀ c ∈ q.filter.containsCharacter, 'a' ≤ c ∧ c ≤ 'z' := by
  obtain ⟨read, _⟩ := parse_eq_ok_iff.mp h
  obtain ⟨_, _, stages, _⟩ := filterOf_ok read
  have modest := run_modest isModest_empty stages
  obtain ⟨text, b, c, _, bounds, _, _, _, same⟩ := filterOf_eq_ok_iff.mp read
  have counted := boundsOf_counted bounds
  have low : q.filter.minLength = b.least := by rw [same]; rfl
  have high : q.filter.maxLength = b.most := by rw [same]; rfl
  refine ⟨⟨?_, ?_, ?_⟩, modest.letter⟩
  · rw [low]
    exact counted.least
  · rw [high]
    exact counted.most
  · intro n words
    have small : 10 < counts := by decide
    exact Nat.lt_of_le_of_lt (modest.words n words).2 small

end Query
end TextCatalog
