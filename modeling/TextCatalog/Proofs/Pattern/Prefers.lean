import TextCatalog.Proofs.Pattern.Search

/-!
# TextCatalog.Proofs.Pattern.Prefers

The match that is taken among all that a pattern could spell at one place.

* `Prefers` — the first of the ways.
* `prefers_of_unique` — a spelling without a rival is preferred.
* `Prefers.seq`, `Prefers.left`, `Prefers.right`, `Prefers.capture` — preference by the parts.
* `matchAt_of_prefers`, `scan_of_prefers` — it is what a search finds and goes on after.
-/

namespace TextCatalog
namespace Pattern

open Text

/-- Whatever was taken and captured before, `s` is the first that is tried before `rest`. -/
def Prefers (p : Pattern) (prev : Option Char) (s rest : List Char) (xs : List (List Char)) :
    Prop :=
  ∀ n ys, (p.ways ⟨prev, s ++ rest, n, ys⟩).head? =
    some ((Cursor.mk prev (s ++ rest) n ys).past s rest xs)

/-- No beginning of the text is spelled. -/
def Fails (p : Pattern) (prev : Option Char) (s : List Char) : Prop :=
  ∀ t rest xs, s = t ++ rest → ¬p.Spells prev t rest xs

variable {p q : Pattern} {prev : Option Char} {s t rest : List Char} {xs ys : List (List Char)}

theorem Fails.ways_eq_nil {c : Cursor} (h : p.Fails c.prev c.rest) : p.ways c = [] := by
  refine List.eq_nil_iff_forall_not_mem.mpr fun d mem => ?_
  obtain ⟨t, rest, xs, text, spells, _⟩ := mem_ways_iff.mp mem
  exact h t rest xs text spells

theorem prefers_of_unique (h : p.Spells prev s rest xs)
    (unique : ∀ t rest' ys, s ++ rest = t ++ rest' → p.Spells prev t rest' ys → t = s ∧ ys = xs) :
    p.Prefers prev s rest xs := by
  intro n zs
  have way : (Cursor.mk prev (s ++ rest) n zs).past s rest xs ∈
      p.ways ⟨prev, s ++ rest, n, zs⟩ :=
    mem_ways_iff.mpr ⟨s, rest, xs, rfl, h, rfl⟩
  cases found : p.ways ⟨prev, s ++ rest, n, zs⟩ with
  | nil =>
    rw [found] at way
    cases way
  | cons d ds =>
    have mem : d ∈ p.ways ⟨prev, s ++ rest, n, zs⟩ := found ▸ List.mem_cons_self
    obtain ⟨t, rest', ys, text, spells, rfl⟩ := mem_ways_iff.mp mem
    obtain ⟨rfl, rfl⟩ := unique t rest' ys text spells
    rw [List.append_cancel_left text]
    rfl

theorem prefers_literal (cs rest : List Char) : (literal cs).Prefers prev cs rest [] :=
  prefers_of_unique ⟨rfl, rfl⟩ fun _ _ _ _ spells => spells

theorem prefers_text (w : String) (rest : List Char) : (text w).Prefers prev w.toList rest [] :=
  prefers_literal w.toList rest

theorem prefers_run {k : CharClass} (ne : s ≠ []) (all : ∀ c ∈ s, k.has c = true)
    (stop : ∀ c ∈ rest.head?, k.has c = false) : (run k).Prefers prev s rest [] := by
  refine prefers_of_unique ⟨⟨ne, all, stop⟩, rfl⟩ ?_
  rintro t rest' ys same ⟨⟨_, all', stop'⟩, rfl⟩
  have taken := congrArg (List.takeWhile k.has) same
  rw [(takeWhile_append_of_head all stop).1, (takeWhile_append_of_head all' stop').1] at taken
  exact ⟨taken.symm, rfl⟩

theorem prefers_boundary (h : prev.any isWord ≠ rest.head?.any isWord) :
    boundary.Prefers prev [] rest [] :=
  prefers_of_unique ⟨⟨rfl, h⟩, rfl⟩ fun _ _ _ _ spells => ⟨spells.1.1, spells.2⟩

theorem prefers_char {k : CharClass} {c : Char} (h : k.has c = true) (rest : List Char) :
    (char k).Prefers prev [c] rest [] := by
  refine prefers_of_unique ⟨⟨c, rfl, h⟩, rfl⟩ ?_
  rintro t rest' ys same ⟨⟨d, rfl, _⟩, rfl⟩
  cases same
  exact ⟨rfl, rfl⟩

theorem Prefers.seq (hp : p.Prefers prev s (t ++ rest) xs)
    (hq : q.Prefers (lastOf prev s) t rest ys) :
    (p ++ q).Prefers prev (s ++ t) rest (xs ++ ys) := by
  intro n zs
  have first := hp n zs
  have second := hq (n + s.length) (zs ++ xs)
  show ((p.ways ⟨prev, s ++ t ++ rest, n, zs⟩).flatMap q.ways).head? = _
  rw [List.append_assoc]
  cases ways : p.ways ⟨prev, s ++ (t ++ rest), n, zs⟩ with
  | nil =>
    rw [ways] at first
    cases first
  | cons d ds =>
    rw [ways] at first
    cases first
    rw [List.flatMap_cons, List.head?_append]
    have second : (q.ways ((Cursor.mk prev (s ++ (t ++ rest)) n zs).past s (t ++ rest) xs)).head? =
      some _ := second
    rw [second, Option.some_or]
    exact congrArg some
      (Cursor.past_past ⟨prev, s ++ (t ++ rest), n, zs⟩ s t (t ++ rest) rest xs ys)

theorem Prefers.left (h : p.Prefers prev s rest xs) : (either p q).Prefers prev s rest xs := by
  intro n zs
  rw [ways, List.head?_append, h n zs]
  rfl

theorem Prefers.right (fails : p.Fails prev (s ++ rest)) (h : q.Prefers prev s rest xs) :
    (either p q).Prefers prev s rest xs := by
  intro n zs
  have none_left : p.ways ⟨prev, s ++ rest, n, zs⟩ = [] := Fails.ways_eq_nil fails
  rw [ways, none_left, List.nil_append, h n zs]

theorem Prefers.maybe (h : p.Prefers prev s rest xs) : (maybe p).Prefers prev s rest xs := h.left

theorem prefers_skip (fails : p.Fails prev rest) : (Pattern.maybe p).Prefers prev [] rest [] :=
  .right fails (prefers_literal [] rest)

theorem Prefers.oneOf (h : p.Prefers prev s rest xs) (ps : List Pattern) :
    (oneOf p ps).Prefers prev s rest xs := by
  induction ps generalizing p with
  | nil => exact h
  | cons q ps ih => exact ih h.left

theorem Prefers.capture (h : p.Prefers prev s rest xs) :
    (capture p).Prefers prev s rest (xs ++ [s]) := by
  intro n zs
  have taken : (Cursor.mk prev (s ++ rest) n zs).between
      ((Cursor.mk prev (s ++ rest) n zs).past s rest xs) = s := by
    simp only [Cursor.between, Cursor.past, Nat.add_sub_cancel_left, List.take_left]
  rw [ways, List.head?_map, h n zs, Option.map_some, taken]
  simp only [Cursor.past, List.append_assoc]

/-! ## Failing -/

theorem Fails.seq (h : p.Fails prev s) (q : Pattern) : (p ++ q).Fails prev s := by
  rintro _ rest _ text ⟨t, u, ys, zs, rfl, rfl, first, _⟩
  exact h t (u ++ rest) ys (by rw [text, List.append_assoc]) first

theorem Fails.bounded (h : p.Fails prev s) : (boundary ++ p).Fails prev s := by
  rintro _ rest _ text ⟨_, u, _, zs, rfl, rfl, ⟨⟨rfl, _⟩, rfl⟩, second⟩
  exact h u rest zs text second

theorem Fails.either (hp : p.Fails prev s) (hq : q.Fails prev s) :
    (Pattern.either p q).Fails prev s := by
  rintro t rest xs text (spells | spells)
  · exact hp t rest xs text spells
  · exact hq t rest xs text spells

/-- Two words fail where the second one is another. -/
theorem fails_second {v w : String} {u : List Char} (head : ∀ c ∈ u.head?, isBlank c = false)
    (other : w.toList.isPrefixOf u = false) :
    (text v ++ blanks ++ text w).Fails prev (v.toList ++ ' ' :: u) := by
  rintro _ rest _ same ⟨_, _, _, _, rfl, rfl, ⟨_, gap, _, _, rfl, rfl, ⟨rfl, rfl⟩, space⟩, rfl, rfl⟩
  obtain ⟨⟨⟨ne, all⟩, stop⟩, _⟩ := spells_blanks_iff.mp space
  rw [List.append_assoc, List.append_assoc] at same
  have same : [' '] ++ u = gap ++ (w.toList ++ rest) := List.append_cancel_left same
  have left := congrArg (List.dropWhile isBlank) same
  rw [(takeWhile_append_of_head isGap_space.2 head).2,
    (takeWhile_append_of_head all stop).2] at left
  rw [left, List.isPrefixOf_iff_prefix.mpr (List.prefix_append w.toList rest)] at other
  cases other

/-! ## Searching -/

theorem matchAt_of_prefers (h : p.Prefers prev s rest xs) :
    p.matchAt prev (s ++ rest) = some ⟨s, xs⟩ := by
  have first := h 0 []
  unfold matchAt Cursor.start
  cases ways : p.ways ⟨prev, s ++ rest, 0, []⟩ with
  | nil =>
    rw [ways] at first
    cases first
  | cons d ds =>
    rw [ways] at first
    cases first
    simp only [Cursor.past, Nat.zero_add, List.take_left, List.nil_append]

/-- A search passes over what a match has taken. -/
theorem scan_skip (p : Pattern) (prev : Option Char) (s rest : List Char) :
    p.scan prev s.length (s ++ rest) = p.scan (lastOf prev s) 0 rest := by
  induction s generalizing prev with
  | nil => rfl
  | cons c s ih =>
    rw [lastOf_cons]
    exact ih (some c)

theorem scan_of_prefers (h : p.Prefers prev s rest xs) (ne : s ≠ []) :
    p.scan prev 0 (s ++ rest) = ⟨s, xs⟩ :: p.scan (lastOf prev s) 0 rest := by
  cases s with
  | nil => exact absurd rfl ne
  | cons c s =>
    have found : p.matchAt prev (c :: (s ++ rest)) = some ⟨c :: s, xs⟩ := matchAt_of_prefers h
    rw [List.cons_append, scan, found, lastOf_cons]
    exact congrArg _ (scan_skip p (some c) s rest)

end Pattern
end TextCatalog
