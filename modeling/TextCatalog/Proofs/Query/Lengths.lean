import TextCatalog.Proofs.Query.Confluence

/-!
# TextCatalog.Proofs.Query.Lengths

Which lengths the length phrases of a text leave.

* `Bounds.Admits` — the lengths within bounds; what raising and lowering does to them.
* `NamesRange`, `RangeFault` — a range phrase names a range, or cannot be read as one.
* `LengthFault` — why a text is refused for its length phrases.
* `IsAsked` — what the phrases of a text ask of a length.
* `readLength_meaning` — exactly the texts with a fault are refused, and the bounds that are read of
  any other one admit exactly the lengths that it asks for.
-/

namespace TextCatalog
namespace Query

open Pattern Text

variable {s : List Char} {b b' : Bounds} {l n : Nat} {m : Match} {e : QueryError}

namespace Bounds

def Admits (b : Bounds) (l : Nat) : Prop :=
  (∀ least ∈ b.least, least ≤ l) ∧ ∀ most ∈ b.most, l ≤ most

theorem admits_raise : (b.raise n).Admits l ↔ b.Admits l ∧ n ≤ l := by
  obtain ⟨least, most⟩ := b
  cases least with
  | none => simp [Admits, raise, and_comm]
  | some k =>
    simp only [Admits, raise, Option.elim_some, Option.mem_def, Option.some.injEq, forall_eq',
      Nat.max_le, and_right_comm]

theorem admits_lower : (b.lower n).Admits l ↔ b.Admits l ∧ l ≤ n := by
  obtain ⟨least, most⟩ := b
  cases most with
  | none => simp [Admits, lower]
  | some k =>
    simp only [Admits, lower, Option.elim_some, Option.mem_def, Option.some.injEq, forall_eq',
      Nat.le_min, and_assoc]

theorem admits_foldl_raise (ns : List Nat) (b : Bounds) :
    (ns.foldl raise b).Admits l ↔ b.Admits l ∧ ∀ n ∈ ns, n ≤ l := by
  induction ns generalizing b with
  | nil => simp
  | cons n ns ih => rw [List.foldl_cons, ih, admits_raise, and_assoc, List.forall_mem_cons]

theorem admits_foldl_lower (ns : List Nat) (b : Bounds) :
    (ns.foldl lower b).Admits l ↔ b.Admits l ∧ ∀ n ∈ ns, l ≤ n := by
  induction ns generalizing b with
  | nil => simp
  | cons n ns ih => rw [List.foldl_cons, ih, admits_lower, and_assoc, List.forall_mem_cons]

/-- Saturation shows at the greatest count only. -/
theorem above_le_iff (h : l < countMax) : above n ≤ l ↔ n < l := by
  show min (n + 1) countMax ≤ l ↔ n < l
  omega

/-- The exclusive bounds, as inclusive ones. -/
theorem admits_exclusive {longer shorter : List Nat} (h : l < countMax) (positive : 0 ∉ shorter) :
    ((shorter.map (· - 1)).foldl lower ((longer.map above).foldl raise b)).Admits l ↔
      b.Admits l ∧ (∀ n ∈ longer, n < l) ∧ ∀ n ∈ shorter, l < n := by
  have less : ∀ n ∈ shorter, (l ≤ n - 1 ↔ l < n) := by
    intro n mem
    have : n ≠ 0 := fun zero => positive (zero ▸ mem)
    omega
  rw [admits_foldl_lower, admits_foldl_raise, and_assoc, List.forall_mem_map, List.forall_mem_map]
  simp only [above_le_iff h]
  exact and_congr_right fun _ => and_congr_right fun _ => forall₂_congr less

end Bounds

/-! ## Ranges -/

/-- The tokens of a range phrase, as numbers. -/
def NamesRange (m : Match) (low high : Nat) : Prop :=
  numberOf? (m.capture 0) = some low ∧ numberOf? (m.capture 1) = some high

def IsRange (m : Match) : Prop := ∃ low high, NamesRange m low high ∧ low < high

/-- Why a range phrase is refused, and as what. -/
inductive RangeFault (m : Match) : QueryError.Kind → QueryError → Prop where
  | unresolved (h : numberOf? (m.capture 0) = none ∨ numberOf? (m.capture 1) = none) :
    RangeFault m .unparseable
      (.unresolvedRange (String.ofList (m.capture 0)) (String.ofList (m.capture 1)))
  | notBelow {low high : Nat} (names : NamesRange m low high) (h : high ≤ low) :
    RangeFault m .conflicting (.emptyRange low high)

theorem rangeOf_cases (m : Match) :
    (∃ low high, NamesRange m low high ∧ low < high ∧ rangeOf m = .ok ⟨some low, some high⟩) ∨
      ∃ e, rangeOf m = .error e ∧ RangeFault m e.kind e := by
  rw [rangeOf, Bounds.ofRange]
  cases first : numberOf? (m.capture 0) with
  | none => exact .inr ⟨_, rfl, .unresolved (.inl first)⟩
  | some low =>
    cases second : numberOf? (m.capture 1) with
    | none => exact .inr ⟨_, rfl, .unresolved (.inr second)⟩
    | some high =>
      by_cases below : low < high
      · exact .inl ⟨low, high, ⟨first, second⟩, below, if_pos below⟩
      · exact .inr ⟨_, if_neg below, .notBelow ⟨first, second⟩ (Nat.le_of_not_lt below)⟩

theorem NamesRange.unique {low high low' high' : Nat} (h : NamesRange m low high)
    (h' : NamesRange m low' high') : low = low' ∧ high = high' :=
  ⟨Option.some.inj (h.1.symm.trans h'.1), Option.some.inj (h.2.symm.trans h'.2)⟩

/-- A range phrase has one fault at most. -/
theorem RangeFault.unique {e' : QueryError} {kind kind' : QueryError.Kind}
    (h : RangeFault m kind e) (h' : RangeFault m kind' e') : e = e' := by
  cases h with
  | unresolved none_left =>
    cases h' with
    | unresolved => rfl
    | notBelow names => simp [names.1, names.2] at none_left
  | notBelow names =>
    cases h' with
    | unresolved none_left => simp [names.1, names.2] at none_left
    | notBelow names' =>
      obtain ⟨rfl, rfl⟩ := names.unique names'
      rfl

theorem not_isRange_of_fault {kind : QueryError.Kind} (h : RangeFault m kind e) : ¬IsRange m := by
  rintro ⟨low, high, names, below⟩
  cases h with
  | unresolved none_left => simp [names.1, names.2] at none_left
  | notBelow names' le =>
    obtain ⟨rfl, rfl⟩ := names.unique names'
    omega

theorem range_of_rangeOf (read : rangeOf m = .ok b) :
    ∃ low high, NamesRange m low high ∧ low < high ∧ b = ⟨some low, some high⟩ := by
  rcases rangeOf_cases m with ⟨low, high, names, below, read'⟩ | ⟨e, refused, _⟩
  · exact ⟨low, high, names, below, Except.ok.inj (read.symm.trans read')⟩
  · cases read.symm.trans refused

theorem fault_of_rangeOf (refused : rangeOf m = .error e) : RangeFault m e.kind e := by
  rcases rangeOf_cases m with ⟨_, _, _, _, read⟩ | ⟨e', refused', fault⟩
  · cases refused.symm.trans read
  · cases refused.symm.trans refused'
    exact fault

/-- The first fault ends the reading; without one, the last range is what is read. -/
theorem foldlM_ranges (ms : List Match) (b : Bounds) :
    (∃ before m after e, ms = before ++ m :: after ∧ (∀ k ∈ before, IsRange k) ∧
        RangeFault m e.kind e ∧ ms.foldlM (fun _ m => rangeOf m) b = .error e) ∨
      (∀ k ∈ ms, IsRange k) ∧ ∃ b', ms.foldlM (fun _ m => rangeOf m) b = .ok b' ∧
        match ms.getLast? with
        | some m => ∃ low high, NamesRange m low high ∧ b' = ⟨some low, some high⟩
        | none => b' = b := by
  have range : ∀ k, (∃ b, rangeOf k = .ok b) → IsRange k := by
    rintro k ⟨b, read⟩
    obtain ⟨low, high, names, below, _⟩ := range_of_rangeOf read
    exact ⟨low, high, names, below⟩
  rcases foldlM_replace rangeOf ms b with ⟨before, m, after, e, split, fine, failed, refused⟩ |
    ⟨fine, b', read, last⟩
  · exact .inl ⟨before, m, after, e, split, fun k mem => range k (fine k mem),
      fault_of_rangeOf failed, refused⟩
  · refine .inr ⟨fun k mem => range k (fine k mem), b', read, ?_⟩
    cases final : ms.getLast? with
    | none =>
      rw [final] at last
      exact last
    | some m =>
      rw [final] at last
      obtain ⟨low, high, names, _, same⟩ := range_of_rangeOf last
      exact ⟨low, high, names, same⟩

/-! ## The whole reading -/

/-- Why the length phrases of a text are refused, and as what. -/
inductive LengthFault (s : List Char) : QueryError.Kind → QueryError → Prop where
  | belowZero (h : 0 ∈ numbersOf shorterPhrase s) : LengthFault s .conflicting .shorterThanZero
  /-- The first range phrase that names no range. -/
  | range {before after : List Match} {m : Match} {kind : QueryError.Kind} {e : QueryError}
    (positive : 0 ∉ numbersOf shorterPhrase s)
    (found : betweenPhrase.findAll s = before ++ m :: after) (fine : ∀ k ∈ before, IsRange k)
    (fault : RangeFault m kind e) : LengthFault s kind e

/-- What a text asks of a length that is to lie within given bounds: a range sets these aside, and
the exclusive bounds with them. -/
def IsAsked (s : List Char) (b : Bounds) (l : Nat) : Prop :=
  (match betweenPhrase.findLast? s with
    | some m => ∃ low high, NamesRange m low high ∧ low ≤ l ∧ l ≤ high
    | none => b.Admits l ∧ (∀ n ∈ numbersOf longerPhrase s, n < l) ∧
        ∀ n ∈ numbersOf shorterPhrase s, l < n) ∧
  (∀ n ∈ numbersOf atLeastPhrase s, n ≤ l) ∧ ∀ n ∈ numbersOf atMostPhrase s, l ≤ n

/-- Two splits of a list at the first member of which something does not hold are the same. -/
theorem first_unique {α : Type} {P : α → Prop} {before before' after after' : List α} {x x' : α}
    (fine : ∀ a ∈ before, P a) (fine' : ∀ a ∈ before', P a) (fails : ¬P x) (fails' : ¬P x')
    (same : before ++ x :: after = before' ++ x' :: after') : x = x' := by
  induction before generalizing before' with
  | nil =>
    cases before' with
    | nil => exact (List.cons.inj same).1
    | cons a before' =>
      obtain ⟨rfl, _⟩ := List.cons.inj same
      exact absurd (fine' x List.mem_cons_self) fails
  | cons a before ih =>
    cases before' with
    | nil =>
      obtain ⟨rfl, _⟩ := List.cons.inj same
      exact absurd (fine a List.mem_cons_self) fails'
    | cons a' before' =>
      exact ih (fun c mem => fine c (List.mem_cons_of_mem a mem))
        (fun c mem => fine' c (List.mem_cons_of_mem a' mem)) (List.cons.inj same).2

theorem LengthFault.unique {e' : QueryError} {kind kind' : QueryError.Kind}
    (h : LengthFault s kind e) (h' : LengthFault s kind' e') : e = e' := by
  cases h with
  | belowZero zero =>
    cases h' with
    | belowZero => rfl
    | range positive => exact absurd zero positive
  | range positive found fine fault =>
    cases h' with
    | belowZero zero => exact absurd zero positive
    | range _ found' fine' fault' =>
      obtain rfl := first_unique fine fine' (not_isRange_of_fault fault)
        (not_isRange_of_fault fault') (found.symm.trans found')
      exact fault.unique fault'

theorem not_lengthFault {kind : QueryError.Kind} (positive : 0 ∉ numbersOf shorterPhrase s)
    (fine : ∀ k ∈ betweenPhrase.findAll s, IsRange k) : ¬LengthFault s kind e := by
  intro h
  cases h with
  | belowZero zero => exact positive zero
  | @range before after m _ _ _ found _ fault =>
    have mem : m ∈ betweenPhrase.findAll s :=
      found ▸ List.mem_append_right before List.mem_cons_self
    exact not_isRange_of_fault fault (fine m mem)

theorem readBounds_meaning (s : List Char) (b : Bounds) :
    (∃ e, readBounds s b = .error e ∧ LengthFault s e.kind e) ∨
      (∀ kind e, ¬LengthFault s kind e) ∧ ∃ b', readBounds s b = .ok b' ∧
        ∀ l < countMax, b'.Admits l ↔ IsAsked s b l := by
  by_cases zero : 0 ∈ numbersOf shorterPhrase s
  · exact .inl ⟨.shorterThanZero, by rw [readBounds_eq, if_pos zero], .belowZero zero⟩
  rw [readBounds_eq, if_neg zero]
  rcases foldlM_ranges (betweenPhrase.findAll s) (((numbersOf shorterPhrase s).map (· - 1)).foldl
      Bounds.lower (((numbersOf longerPhrase s).map Bounds.above).foldl Bounds.raise b)) with
    ⟨before, m, after, e, found, fine, fault, refused⟩ | ⟨fine, b', read, last⟩
  · exact .inl ⟨e, by rw [refused]; rfl, .range zero found fine fault⟩
  refine .inr ⟨fun kind e => not_lengthFault zero fine, _, by rw [read]; rfl, fun l small => ?_⟩
  rw [Bounds.admits_foldl_lower, Bounds.admits_foldl_raise, and_assoc]
  refine and_congr_left fun _ => ?_
  have findLast : betweenPhrase.findLast? s = (betweenPhrase.findAll s).getLast? := rfl
  rw [findLast]
  cases ranges : (betweenPhrase.findAll s).getLast? with
  | none =>
    rw [ranges] at last
    rw [show b' = _ from last]
    exact Bounds.admits_exclusive small zero
  | some m =>
    rw [ranges] at last
    obtain ⟨low, high, names, rfl⟩ := last
    constructor
    · intro within
      exact ⟨low, high, names, within.1 low rfl, within.2 high rfl⟩
    · rintro ⟨low', high', names', above, below⟩
      obtain ⟨rfl, rfl⟩ := names.unique names'
      exact ⟨by rintro _ ⟨⟩; exact above, by rintro _ ⟨⟩; exact below⟩

/--
A text is refused exactly for a length below zero or else for its first range phrase that names no
range. Of any other one only the bounds are changed, and they admit exactly the lengths it asks for;
the greatest count is left out, being its own successor.
-/
theorem readLength_meaning (s : List Char) (f : Filter) :
    (∀ e, readLength s f = .error e ↔ LengthFault s e.kind e) ∧
    ∀ g, readLength s f = .ok g →
      g = { f with minLength := g.minLength, maxLength := g.maxLength } ∧
        ∀ l < countMax, Bounds.Admits ⟨g.minLength, g.maxLength⟩ l ↔
          IsAsked s ⟨f.minLength, f.maxLength⟩ l := by
  rcases readBounds_meaning s ⟨f.minLength, f.maxLength⟩ with ⟨e, refused, fault⟩ |
    ⟨noFault, b, read, admits⟩
  · have refused : readLength s f = .error e := by rw [readLength, refused]; rfl
    rw [refused]
    refine ⟨fun e' => ⟨?_, fun fault' => congrArg Except.error (fault.unique fault')⟩, ?_⟩
    · rintro ⟨⟩
      exact fault
    · rintro g ⟨⟩
  · have read : readLength s f = .ok { f with minLength := b.least, maxLength := b.most } := by
      rw [readLength, read]
      rfl
    rw [read]
    refine ⟨fun e => ⟨?_, fun fault => absurd fault (noFault _ e)⟩, ?_⟩
    · rintro ⟨⟩
    · rintro g ⟨⟩
      exact ⟨rfl, admits⟩

/-- Two ranges, of which the last sets aside what was asked for before it, and a token that names no
number; and a text whose first fault is not its last. -/
theorem readLength_meaning_two_ranges :
    let s := "longer than 50, from 5 to nine, more than usual, between 3 and 12, at most 10".toList
    let t := "between 3 and 12, from few to many, between 9 and 2".toList
    readLength s ⟨some true, some 99, none, none, none⟩ =
        .ok ⟨some true, some 3, some 10, none, none⟩ ∧
      IsAsked s ⟨some 99, none⟩ 7 ∧ ¬IsAsked s ⟨some 99, none⟩ 11 ∧
      LengthFault t .unparseable (.unresolvedRange "few" "many") := by
  intro s t
  have read : readLength s ⟨some true, some 99, none, none, none⟩ =
      .ok ⟨some true, some 3, some 10, none, none⟩ := by
    rfl
  have asked : ∀ l < countMax, Bounds.Admits ⟨some 3, some 10⟩ l ↔ IsAsked s ⟨some 99, none⟩ l :=
    ((readLength_meaning s _).2 _ read).2
  have refused : readLength t Filter.empty = .error (.unresolvedRange "few" "many") := by
    rfl
  refine ⟨read, (asked 7 (by decide)).mp ⟨?_, ?_⟩, fun eleven => ?_,
    ((readLength_meaning t _).1 _).mp refused⟩
  · rintro _ ⟨⟩
    decide
  · rintro _ ⟨⟩
    decide
  · exact absurd (((asked 11 (by decide)).mpr eleven).2 10 rfl) (by decide)

end Query
end TextCatalog
