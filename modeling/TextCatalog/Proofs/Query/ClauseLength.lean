import TextCatalog.Proofs.Query.ClauseMatch
import TextCatalog.Proofs.Query.Numbers

/-!
# TextCatalog.Proofs.Query.ClauseLength

The bounds that the clauses of a text set.

* `Comparison.numbersOf_clauses` — the numbers of one family of clauses, in their order.
* `foldl_raise`, `foldl_lower` — the strictest of the bounds.
* `foldlM_shorterThan`, `foldlM_rangeOf` — those two families of clauses that can be refused.
* `readBounds_clauses` — all five families together.
-/

namespace TextCatalog
namespace Query

open Pattern Text

/-! ## Numbers -/

namespace Comparison

theorem filterMap_found (k : Comparison) (c : Clause) :
    (k.found c).filterMap (fun m => numberOf? (m.capture 0)) = (k.number? c).toList := by
  rw [found]
  cases own : k.number? c with
  | none => rfl
  | some n =>
    have number : numberOf? ((Match.mk c.text [numeral n]).capture 0) = some n :=
      numberOf?_numeral ⟨n, k.number?_lt own⟩
    rw [Option.toList_some, List.map_singleton, List.filterMap_cons, number]
    rfl

/-- The numbers of one family of clauses are all read, in their order. -/
theorem numbersOf_clauses (k : Comparison) (cs : List Clause) :
    numbersOf k.phrase (clausesText cs) = cs.filterMap k.number? := by
  rw [numbersOf, findAll_clauses k.phrase_plain k.phrase_reads]
  induction cs with
  | nil => rfl
  | cons c cs ih =>
    rw [List.flatMap_cons, List.filterMap_append, k.filterMap_found, ih, List.filterMap_cons]
    cases k.number? c <;> rfl

end Comparison

/-! ## Folding the bounds -/

theorem foldl_raise (ns : List Nat) (b : Bounds) :
    ns.foldl Bounds.raise b = ⟨(b.least.toList ++ ns).max?, b.most⟩ := by
  induction ns generalizing b with
  | nil =>
    obtain ⟨least, most⟩ := b
    cases least <;> rfl
  | cons n ns ih =>
    rw [List.foldl_cons, ih]
    obtain ⟨least, most⟩ := b
    cases least <;> rfl

theorem foldl_lower (ns : List Nat) (b : Bounds) :
    ns.foldl Bounds.lower b = ⟨b.least, (b.most.toList ++ ns).min?⟩ := by
  induction ns generalizing b with
  | nil =>
    obtain ⟨least, most⟩ := b
    cases most <;> rfl
  | cons n ns ih =>
    rw [List.foldl_cons, ih]
    obtain ⟨least, most⟩ := b
    cases most <;> rfl

theorem foldl_lower_raise (ms ns : List Nat) (b : Bounds) :
    ms.foldl Bounds.lower (ns.foldl Bounds.raise b) =
      ns.foldl Bounds.raise (ms.foldl Bounds.lower b) := by
  rw [foldl_lower, foldl_raise, foldl_lower, foldl_raise]

theorem foldl_longerThan (ns : List Nat) (b : Bounds) :
    ns.foldl Bounds.longerThan b = (ns.map Bounds.above).foldl Bounds.raise b := by
  rw [List.foldl_map]
  rfl

theorem foldlM_shorterThan (ns : List Nat) (b : Bounds) :
    ns.foldlM Bounds.shorterThan b =
      if 0 ∈ ns then .error .shorterThanZero
      else .ok ((ns.map (· - 1)).foldl Bounds.lower b) := by
  induction ns generalizing b with
  | nil => rfl
  | cons n ns ih =>
    rw [List.foldlM_cons]
    cases n with
    | zero => rfl
    | succ n =>
      have step : Bounds.shorterThan b (n + 1) = .ok (b.lower n) := rfl
      rw [step]
      refine (ih (b.lower n)).trans ?_
      simp

/-- Where every member sets aside what was read before it, the last one is what is read, and the
first one that is refused ends the reading. -/
theorem foldlM_replace {ε α β : Type} (f : α → Except ε β) (xs : List α) (b : β) :
    (∃ before x after e, xs = before ++ x :: after ∧ (∀ y ∈ before, ∃ b, f y = .ok b) ∧
        f x = .error e ∧ xs.foldlM (fun _ x => f x) b = .error e) ∨
      (∀ x ∈ xs, ∃ b, f x = .ok b) ∧ ∃ b', xs.foldlM (fun _ x => f x) b = .ok b' ∧
        match xs.getLast? with
        | some x => f x = .ok b'
        | none => b' = b := by
  induction xs generalizing b with
  | nil => exact .inr ⟨by rintro x ⟨⟩, b, rfl, rfl⟩
  | cons x xs ih =>
    rw [List.foldlM_cons]
    cases read : f x with
    | error e => exact .inl ⟨[], x, xs, e, rfl, by rintro y ⟨⟩, read, rfl⟩
    | ok c =>
      rcases ih c with ⟨before, y, after, e, rfl, fine, failed, refused⟩ | ⟨fine, b', read', last⟩
      · exact .inl ⟨x :: before, y, after, e, rfl, List.forall_mem_cons.mpr ⟨⟨c, read⟩, fine⟩,
          failed, refused⟩
      · refine .inr ⟨List.forall_mem_cons.mpr ⟨⟨c, read⟩, fine⟩, b', read', ?_⟩
        rw [List.getLast?_cons]
        cases later : xs.getLast? with
        | none =>
          rw [later] at last
          exact read.trans (congrArg Except.ok last.symm)
        | some y =>
          rw [later] at last
          exact last

/-- The ranges that are named by numerals. -/
def namedRange (r : Nat × Nat) : Except QueryError Bounds :=
  if r.1 < r.2 then .ok ⟨some r.1, some r.2⟩ else .error (.emptyRange r.1 r.2)

theorem namedRange_cases (r : Nat × Nat) :
    r.1 < r.2 ∧ namedRange r = .ok ⟨some r.1, some r.2⟩ ∨
      r.2 ≤ r.1 ∧ namedRange r = .error (.emptyRange r.1 r.2) := by
  by_cases below : r.1 < r.2
  · exact .inl ⟨below, if_pos below⟩
  · exact .inr ⟨Nat.le_of_not_lt below, if_neg below⟩

theorem foldlM_namedRange (rs : List (Nat × Nat)) (b : Bounds) :
    (∃ r ∈ rs, r.2 ≤ r.1) ∧ (∃ e, rs.foldlM (fun _ r => namedRange r) b = .error e ∧
        e.kind = .conflicting) ∨
      (∀ r ∈ rs, r.1 < r.2) ∧ rs.foldlM (fun _ r => namedRange r) b =
        .ok (match rs.getLast? with
          | some r => ⟨some r.1, some r.2⟩
          | none => b) := by
  have below : ∀ {r b}, namedRange r = .ok b → r.1 < r.2 ∧ b = ⟨some r.1, some r.2⟩ := by
    intro r b read
    rcases namedRange_cases r with ⟨below, read'⟩ | ⟨_, refused⟩
    · exact ⟨below, Except.ok.inj (read.symm.trans read')⟩
    · cases read.symm.trans refused
  rcases foldlM_replace namedRange rs b with ⟨before, r, after, e, rfl, _, failed, refused⟩ |
    ⟨fine, b', read, last⟩
  · rcases namedRange_cases r with ⟨_, read⟩ | ⟨crossed, failed'⟩
    · cases read.symm.trans failed
    · cases failed'.symm.trans failed
      exact .inl ⟨⟨r, List.mem_append_right _ List.mem_cons_self, crossed⟩, _, refused, rfl⟩
  · refine .inr ⟨fun r mem => ?_, read.trans (congrArg Except.ok ?_)⟩
    · obtain ⟨_, read⟩ := fine r mem
      exact (below read).1
    · cases final : rs.getLast? with
      | none =>
        rw [final] at last
        exact last
      | some r =>
        rw [final] at last
        exact (below last).2

theorem rangeOf_numerals (t : List Char) (n m : Fin counts) :
    rangeOf ⟨t, [numeral n, numeral m]⟩ = namedRange (n.val, m.val) := by
  show Bounds.ofRange (numeral n) (numeral m) = _
  simp only [Bounds.ofRange, numberOf?_numeral]
  rfl

theorem foldlM_rangeOf (cs : List Clause) (b : Bounds) :
    (betweenPhrase.findAll (clausesText cs)).foldlM (fun _ m => rangeOf m) b =
      (ranges cs).foldlM (fun _ r => namedRange r) b := by
  rw [findAll_clauses betweenPhrase_plain betweenPhrase_reads, ranges]
  induction cs generalizing b with
  | nil => rfl
  | cons c cs ih =>
    rw [List.flatMap_cons, List.foldlM_append, List.filterMap_cons]
    cases c with
    | between n m =>
      show ([Match.mk _ [numeral n, numeral m]].foldlM (fun _ m => rangeOf m) b >>= _) =
        ((n.val, m.val) :: _).foldlM (fun _ r => namedRange r) b
      rw [List.foldlM_cons, List.foldlM_cons, rangeOf_numerals]
      cases namedRange (n.val, m.val) with
      | error e => rfl
      | ok b' => exact ih b'
    | _ => exact ih b

/-! ## All families -/

/-- The bounds before any range is read. -/
def foldedBounds (cs : List Clause) : Bounds where
  least := ((cs.filterMap Clause.longer?).map Bounds.above).max?
  most := ((cs.filterMap Clause.shorter?).map (· - 1)).min?

theorem foldl_longer (cs : List Clause) :
    (numbersOf longerPhrase (clausesText cs)).foldl Bounds.longerThan ⟨none, none⟩ =
      ⟨(foldedBounds cs).least, none⟩ := by
  rw [show numbersOf longerPhrase _ = _ from Comparison.longer.numbersOf_clauses cs,
    foldl_longerThan, foldl_raise]
  rfl

theorem foldlM_shorter (cs : List Clause) :
    (numbersOf shorterPhrase (clausesText cs)).foldlM Bounds.shorterThan
        ⟨(foldedBounds cs).least, none⟩ =
      if 0 ∈ cs.filterMap Clause.shorter? then .error .shorterThanZero
      else .ok (foldedBounds cs) := by
  rw [show numbersOf shorterPhrase _ = _ from Comparison.shorter.numbersOf_clauses cs,
    foldlM_shorterThan, foldl_lower]
  rfl

theorem readBounds_clauses (cs : List Clause) :
    (IsRefused cs ∧ ∃ e, readBounds (clausesText cs) ⟨none, none⟩ = .error e ∧
        e.kind = .conflicting) ∨
      (¬IsRefused cs ∧ readBounds (clausesText cs) ⟨none, none⟩ = .ok ⟨least cs, most cs⟩) := by
  have atLeast : numbersOf atLeastPhrase (clausesText cs) = cs.filterMap Clause.atLeast? :=
    Comparison.atLeast.numbersOf_clauses cs
  have atMost : numbersOf atMostPhrase (clausesText cs) = cs.filterMap Clause.atMost? :=
    Comparison.atMost.numbersOf_clauses cs
  simp only [readBounds, foldl_longer, foldlM_shorter, foldlM_rangeOf, atLeast, atMost,
    foldl_raise, foldl_lower]
  by_cases zero : 0 ∈ cs.filterMap Clause.shorter?
  · rw [if_pos zero]
    exact .inl ⟨.inl zero, _, rfl, rfl⟩
  rw [if_neg zero]
  rcases foldlM_namedRange (ranges cs) (foldedBounds cs) with ⟨crossed, e, refused, kind⟩ |
    ⟨all, last⟩
  · refine .inl ⟨.inr crossed, e, ?_, kind⟩
    simp only [bind, Except.bind, refused]
  · refine .inr ⟨?_, ?_⟩
    · rintro (shorter | ⟨r, mem, crossed⟩)
      · exact zero shorter
      · have := all r mem
        omega
    · simp only [bind, Except.bind, last, least, most, low, high]
      cases (ranges cs).getLast? <;> rfl

end Query
end TextCatalog
