import TextCatalog.Proofs.Pattern.Extension

/-!
# TextCatalog.Proofs.Pattern.Occurrences

Patterns of which the successive matches are all that there are.

* `IsApart` — no search is changed by what stands inside a match.
* `findAll_eq_occurrences` — of such a pattern no match is lost to one before it.
* `IsLastIn`, `IsNowhereIn` — the match that starts furthest on, and that there is none.
* `findLast?_eq_some_iff`, `findLast?_eq_none_iff` — the same of the last match that is found.
-/

namespace TextCatalog
namespace Pattern

variable {p : Pattern} {prev : Option Char} {s : List Char} {m : Match}

/-- A search that starts inside a match finds what a search past the match does. -/
def IsApart (p : Pattern) : Prop :=
  ∀ prev c t rest xs, p.Spells prev (c :: t) rest xs →
    p.scan (some c) 0 (t ++ rest) = p.scan (lastOf (some c) t) 0 rest

theorem IsApart.scan_past (apart : p.IsApart) {c : Char}
    (found : p.matchAt prev (c :: s) = some m) :
    p.scan (some c) (m.text.length - 1) s = p.scan (some c) 0 s := by
  obtain ⟨rest, text, spells⟩ := spells_of_matchAt found
  cases taken : m.text with
  | nil => rfl
  | cons d t =>
    rw [taken, List.cons_append] at text
    rw [taken] at spells
    cases text
    rw [apart prev c t rest m.captures spells]
    exact scan_skip p (some c) t rest

theorem scan_eq_occurrencesAfter (apart : p.IsApart) (prev : Option Char) (s : List Char) :
    p.scan prev 0 s = p.occurrencesAfter prev s := by
  induction s generalizing prev with
  | nil =>
    unfold scan
    rfl
  | cons c s ih =>
    rw [scan, occurrencesAfter]
    cases found : p.matchAt prev (c :: s) with
    | none => exact ih (some c)
    | some m =>
      have later : p.scan (some c) (m.text.length - 1) s = p.occurrencesAfter (some c) s :=
        (apart.scan_past found).trans (ih (some c))
      exact congrArg (m :: ·) later

theorem findAll_eq_occurrences (apart : p.IsApart) (s : List Char) :
    p.findAll s = p.occurrences s :=
  scan_eq_occurrencesAfter apart none s

/-! ## The last one -/

/-- No match starts in the text, not at its end either. -/
def IsNowhereIn (p : Pattern) (prev : Option Char) (s : List Char) : Prop :=
  ∀ pre post, s = pre ++ post → p.matchAt (lastOf prev pre) post = none

/-- The match starts right before a character of the text, and none starts after it. -/
def IsLastIn (p : Pattern) (prev : Option Char) (s : List Char) (m : Match) : Prop :=
  ∃ pre c post, s = pre ++ c :: post ∧ p.matchAt (lastOf prev pre) (c :: post) = some m ∧
    p.IsNowhereIn (some c) post

theorem isNowhereIn_nil (solid : p.isSolid = true) (prev : Option Char) :
    p.IsNowhereIn prev [] := by
  intro pre post text
  rw [(List.append_eq_nil_iff.mp text.symm).2]
  refine matchAt_eq_none_iff.mpr fun t rest xs nothing spells => ?_
  exact spells.ne_nil solid (List.append_eq_nil_iff.mp nothing.symm).1

theorem isNowhereIn_cons {c : Char} : p.IsNowhereIn prev (c :: s) ↔
    p.matchAt prev (c :: s) = none ∧ p.IsNowhereIn (some c) s := by
  constructor
  · intro nowhere
    refine ⟨nowhere [] (c :: s) rfl, fun pre post text => ?_⟩
    rw [← lastOf_cons prev]
    exact nowhere (c :: pre) post (congrArg (c :: ·) text)
  · rintro ⟨here, later⟩ (_ | ⟨d, pre⟩) post text
    · rw [lastOf_nil, ← show c :: s = post from text]
      exact here
    · cases text
      rw [lastOf_cons]
      exact later pre post rfl

theorem isLastIn_cons {c : Char} : p.IsLastIn prev (c :: s) m ↔
    p.IsLastIn (some c) s m ∨ p.IsNowhereIn (some c) s ∧ p.matchAt prev (c :: s) = some m := by
  constructor
  · rintro ⟨_ | ⟨d, pre⟩, b, post, text, found, nowhere⟩
    · cases text
      exact .inr ⟨nowhere, found⟩
    · cases text
      rw [lastOf_cons] at found
      exact .inl ⟨pre, b, post, rfl, found, nowhere⟩
  · rintro (⟨pre, b, post, rfl, found, nowhere⟩ | ⟨nowhere, found⟩)
    · refine ⟨c :: pre, b, post, rfl, ?_, nowhere⟩
      rw [lastOf_cons]
      exact found
    · exact ⟨[], c, s, rfl, found, nowhere⟩

theorem occurrencesAfter_eq_nil_iff (solid : p.isSolid = true) :
    p.occurrencesAfter prev s = [] ↔ p.IsNowhereIn prev s := by
  induction s generalizing prev with
  | nil => exact iff_of_true rfl (isNowhereIn_nil solid prev)
  | cons c s ih =>
    rw [occurrencesAfter, List.append_eq_nil_iff, Option.toList_eq_nil_iff, ih, isNowhereIn_cons]

theorem getLast?_occurrencesAfter (solid : p.isSolid = true) :
    (p.occurrencesAfter prev s).getLast? = some m ↔ p.IsLastIn prev s m := by
  induction s generalizing prev with
  | nil =>
    refine iff_of_false (by rintro ⟨⟩) ?_
    rintro ⟨pre, c, post, text, _⟩
    exact List.append_ne_nil_of_right_ne_nil pre (List.cons_ne_nil c post) text.symm
  | cons c s ih =>
    have here : ∀ found : Option Match, found.toList.getLast? = found := by
      intro found
      cases found <;> rfl
    rw [occurrencesAfter, List.getLast?_append, Option.or_eq_some_iff, ih,
      List.getLast?_eq_none_iff, occurrencesAfter_eq_nil_iff solid, here, isLastIn_cons]

theorem findLast?_eq_some_iff (apart : p.IsApart) (solid : p.isSolid = true) :
    p.findLast? s = some m ↔ p.IsLastIn none s m := by
  rw [findLast?, findAll_eq_occurrences apart]
  exact getLast?_occurrencesAfter solid

theorem findLast?_eq_none_iff (apart : p.IsApart) (solid : p.isSolid = true) :
    p.findLast? s = none ↔ p.IsNowhereIn none s := by
  rw [findLast?, findAll_eq_occurrences apart, List.getLast?_eq_none_iff]
  exact occurrencesAfter_eq_nil_iff solid

end Pattern
end TextCatalog
