import TextCatalog.Pattern.Search

/-!
# TextCatalog.Proofs.Pattern.Spells

What a pattern stands for, whatever the order in which its matches are tried.

* `Spells` — a text is one way to write a pattern between what stands before and after it, and
  these are its captures.
* `mem_ways_iff` — the ways of a pattern are the texts that it spells.
* `spells_of_matchAt`, `matchAt_eq_none_iff` — the same of the preferred match at one place.
-/

namespace TextCatalog

open Text

/-- The last character of a text, or the one before it where the text is empty. -/
def lastOf (prev : Option Char) (s : List Char) : Option Char := s.getLast?.or prev

theorem lastOf_nil (prev : Option Char) : lastOf prev [] = prev := rfl

theorem lastOf_append (prev : Option Char) (s t : List Char) :
    lastOf prev (s ++ t) = lastOf (lastOf prev s) t := by
  rw [lastOf, lastOf, lastOf, List.getLast?_append, Option.or_assoc]

theorem lastOf_cons (prev : Option Char) (c : Char) (s : List Char) :
    lastOf prev (c :: s) = lastOf (some c) s := lastOf_append prev [c] s

theorem lastOf_of_ne_nil {s : List Char} (h : s ≠ []) (prev : Option Char) :
    lastOf prev s = some (s.getLast h) := by
  rw [lastOf, List.getLast?_eq_some_getLast h]
  rfl

namespace Cursor

def past (c : Cursor) (s rest : List Char) (xs : List (List Char)) : Cursor :=
  ⟨lastOf c.prev s, rest, c.taken + s.length, c.captures ++ xs⟩

theorem past_nil (c : Cursor) : c.past [] c.rest [] = c := by
  simp only [past, lastOf_nil, List.length_nil, Nat.add_zero, List.append_nil]

theorem past_past (c : Cursor) (s t rest rest' : List Char) (xs ys : List (List Char)) :
    (c.past s rest xs).past t rest' ys = c.past (s ++ t) rest' (xs ++ ys) := by
  simp only [past, lastOf_append, List.length_append, List.append_assoc, Nat.add_assoc]

end Cursor

namespace Pattern

/-! ## Spelling -/

/-- What can be written one piece after the other; every piece takes some text. -/
inductive Repeats (piece : Option Char → List Char → List Char → List (List Char) → Prop) :
    Option Char → List Char → List Char → List (List Char) → Prop where
  | none {prev : Option Char} {rest : List Char} : Repeats piece prev [] rest []
  | more {prev : Option Char} {s t rest : List Char} {xs ys : List (List Char)} (ne : s ≠ [])
    (first : piece prev s (t ++ rest) xs) (others : Repeats piece (lastOf prev s) t rest ys) :
    Repeats piece prev (s ++ t) rest (xs ++ ys)

/-- The text `s` after `prev` and before `rest`, with the captures `xs`. -/
def Spells : Pattern → Option Char → List Char → List Char → List (List Char) → Prop
  | .literal cs, _, s, _, xs => s = cs ∧ xs = []
  | .char k, _, s, _, xs => (∃ c, s = [c] ∧ k.has c = true) ∧ xs = []
  | .run k, _, s, rest, xs =>
    (s ≠ [] ∧ (∀ c ∈ s, k.has c = true) ∧ ∀ c ∈ rest.head?, k.has c = false) ∧ xs = []
  | .boundary, prev, s, rest, xs =>
    (s = [] ∧ prev.any isWord ≠ rest.head?.any isWord) ∧ xs = []
  | .seq p q, prev, s, rest, xs =>
    ∃ t u ys zs, s = t ++ u ∧ xs = ys ++ zs ∧ p.Spells prev t (u ++ rest) ys ∧
      q.Spells (lastOf prev t) u rest zs
  | .either p q, prev, s, rest, xs => p.Spells prev s rest xs ∨ q.Spells prev s rest xs
  | .many p, prev, s, rest, xs => Repeats p.Spells prev s rest xs
  | .capture p, prev, s, rest, xs => ∃ ys, p.Spells prev s rest ys ∧ xs = ys ++ [s]

variable {prev : Option Char} {s rest : List Char} {xs : List (List Char)}

theorem spells_oneOf_iff {p : Pattern} {ps : List Pattern} :
    (oneOf p ps).Spells prev s rest xs ↔ ∃ q ∈ p :: ps, q.Spells prev s rest xs := by
  induction ps generalizing p with
  | nil => simp [oneOf]
  | cons q ps ih =>
    have fold : oneOf p (q :: ps) = oneOf (.either p q) ps := rfl
    rw [fold, ih]
    simp [Spells, or_assoc]

theorem spells_oneWord_iff {w : String} {ws : List String} :
    (oneWord w ws).Spells prev s rest xs ↔ (∃ v ∈ w :: ws, s = v.toList) ∧ xs = [] := by
  rw [oneWord, spells_oneOf_iff, ← List.map_cons]
  constructor
  · rintro ⟨q, mem, spells⟩
    obtain ⟨v, listed, rfl⟩ := List.mem_map.mp mem
    exact ⟨⟨v, listed, spells.1⟩, spells.2⟩
  · rintro ⟨⟨v, mem, same⟩, silent⟩
    exact ⟨text v, List.mem_map_of_mem mem, same, silent⟩

/-- A nonempty run of blanks. -/
def IsGap (s : List Char) : Prop := s ≠ [] ∧ ∀ c ∈ s, isBlank c = true

instance (s : List Char) : Decidable (IsGap s) :=
  decidable_of_iff (s ≠ [] ∧ s.all isBlank = true) (and_congr_right fun _ => List.all_eq_true)

theorem isGap_space : IsGap [' '] := by decide

theorem isGap_of_mem_none : ∀ gap ∈ (none : Option (List Char)), IsGap gap := by
  rintro gap ⟨⟩

theorem isGap_of_mem_space : ∀ gap ∈ some [' '], IsGap gap := by
  rintro gap ⟨⟩
  exact isGap_space

theorem spells_blanks_iff : blanks.Spells prev s rest xs ↔
    (IsGap s ∧ ∀ c ∈ rest.head?, isBlank c = false) ∧ xs = [] := by
  constructor
  · rintro ⟨⟨ne, all, stop⟩, silent⟩
    exact ⟨⟨⟨ne, all⟩, stop⟩, silent⟩
  · rintro ⟨⟨⟨ne, all⟩, stop⟩, silent⟩
    exact ⟨⟨ne, all, stop⟩, silent⟩

/-- A pattern between two boundaries. -/
theorem spells_bounded_iff {p : Pattern} : (.boundary ++ p ++ .boundary).Spells prev s rest xs ↔
    p.Spells prev s rest xs ∧ prev.any isWord ≠ (s ++ rest).head?.any isWord ∧
      (lastOf prev s).any isWord ≠ rest.head?.any isWord := by
  constructor
  · rintro ⟨_, _, _, _, rfl, rfl, ⟨_, _, _, _, rfl, rfl, ⟨⟨rfl, opens⟩, rfl⟩, spells⟩,
      ⟨rfl, closes⟩, rfl⟩
    simp only [List.append_nil, List.nil_append] at *
    exact ⟨spells, opens, closes⟩
  · rintro ⟨spells, opens, closes⟩
    refine ⟨s, [], xs, [], (List.append_nil s).symm, (List.append_nil xs).symm, ?_,
      ⟨rfl, closes⟩, rfl⟩
    exact ⟨[], s, [], xs, rfl, rfl, ⟨⟨rfl, opens⟩, rfl⟩, spells⟩

theorem Spells.seq {p q : Pattern} {t : List Char} {ys : List (List Char)}
    (hp : p.Spells prev s (t ++ rest) xs) (hq : q.Spells (lastOf prev s) t rest ys) :
    (p ++ q).Spells prev (s ++ t) rest (xs ++ ys) :=
  ⟨s, t, xs, ys, rfl, rfl, hp, hq⟩

theorem Spells.captured {p : Pattern} (h : p.Spells prev s rest xs) :
    (capture p).Spells prev s rest (xs ++ [s]) :=
  ⟨xs, h, rfl⟩

/-! ## Ways -/

/-- The ways at a cursor are what can be spelled from there. -/
def Exact (p : Pattern) : Prop := ∀ c d : Cursor, d ∈ p.ways c ↔
  ∃ s rest xs, c.rest = s ++ rest ∧ p.Spells c.prev s rest xs ∧ d = c.past s rest xs

theorem mem_literal_iff {cs : List Char} {c d : Cursor} :
    d ∈ c.literal cs ↔ ∃ rest, c.rest = cs ++ rest ∧ d = c.past cs rest [] := by
  induction cs generalizing c with
  | nil =>
    rw [Cursor.literal, List.mem_singleton]
    constructor
    · rintro rfl
      exact ⟨d.rest, rfl, d.past_nil.symm⟩
    · rintro ⟨rest, same, rfl⟩
      rw [← show c.rest = rest from same, c.past_nil]
  | cons a cs ih =>
    cases text : c.rest with
    | nil => simp [Cursor.literal, text]
    | cons b bs =>
      simp only [Cursor.literal, text]
      by_cases same : a = b
      · subst same
        have past : ∀ rest, (Cursor.mk (some a) bs (c.taken + 1) c.captures).past cs rest [] =
            c.past (a :: cs) rest [] := by
          intro rest
          simp only [Cursor.past, lastOf_cons, List.length_cons]
          rw [show c.taken + 1 + cs.length = c.taken + (cs.length + 1) by omega]
        rw [if_pos rfl, ih]
        simp [past]
      · rw [if_neg same]
        simp only [List.not_mem_nil, false_iff]
        rintro ⟨rest, found, _⟩
        cases found
        exact same rfl

theorem exact_literal (cs : List Char) : (literal cs).Exact := by
  intro c d
  rw [ways, mem_literal_iff]
  constructor
  · rintro ⟨rest, same, rfl⟩
    exact ⟨cs, rest, [], same, ⟨rfl, rfl⟩, rfl⟩
  · rintro ⟨s, rest, xs, same, ⟨rfl, rfl⟩, rfl⟩
    exact ⟨rest, same, rfl⟩

theorem exact_char (k : CharClass) : (char k).Exact := by
  intro c d
  cases text : c.rest with
  | nil => simp [ways, Cursor.char, Spells, text]
  | cons b bs =>
    simp only [ways, Cursor.char, Spells, text]
    split
    · rename_i has
      simp only [List.mem_singleton]
      constructor
      · rintro rfl
        exact ⟨[b], bs, [], rfl, ⟨⟨b, rfl, has⟩, rfl⟩, by simp [Cursor.past, lastOf]⟩
      · rintro ⟨s, rest, xs, same, ⟨⟨a, rfl, _⟩, rfl⟩, rfl⟩
        cases same
        simp [Cursor.past, lastOf]
    · rename_i has
      simp only [List.not_mem_nil, false_iff]
      rintro ⟨s, rest, xs, same, ⟨⟨a, rfl, found⟩, rfl⟩, rfl⟩
      cases same
      exact has found

theorem exact_boundary : boundary.Exact := by
  intro c d
  simp only [ways, Cursor.boundary, Spells, Cursor.wordBefore, Cursor.wordAfter, bne_iff_ne]
  split
  · rename_i ne
    rw [List.mem_singleton]
    constructor
    · rintro rfl
      exact ⟨[], d.rest, [], rfl, ⟨⟨rfl, ne⟩, rfl⟩, d.past_nil.symm⟩
    · rintro ⟨s, rest, xs, same, ⟨⟨rfl, _⟩, rfl⟩, rfl⟩
      rw [← show c.rest = rest from same, c.past_nil]
  · rename_i eq
    simp only [List.not_mem_nil, false_iff]
    rintro ⟨s, rest, xs, same, ⟨⟨rfl, ne⟩, rfl⟩, rfl⟩
    rw [← show c.rest = rest from same] at ne
    exact eq ne

theorem takeWhile_of_head {has : Char → Bool} {rest : List Char}
    (stop : ∀ c ∈ rest.head?, has c = false) :
    rest.takeWhile has = [] ∧ rest.dropWhile has = rest := by
  cases rest with
  | nil => exact ⟨rfl, rfl⟩
  | cons c rest =>
    have no : ¬has c = true := by rw [stop c rfl]; decide
    exact ⟨List.takeWhile_cons_of_neg no, List.dropWhile_cons_of_neg no⟩

/-- A text that is split where a class ends is split after its leading run. -/
theorem takeWhile_append_of_head {has : Char → Bool} {s rest : List Char}
    (all : ∀ c ∈ s, has c = true) (stop : ∀ c ∈ rest.head?, has c = false) :
    (s ++ rest).takeWhile has = s ∧ (s ++ rest).dropWhile has = rest := by
  obtain ⟨taken, left⟩ := takeWhile_of_head stop
  rw [List.takeWhile_append_of_pos all, List.dropWhile_append_of_pos all, taken, left,
    List.append_nil]
  exact ⟨rfl, rfl⟩

theorem mem_run_iff {k : CharClass} {c d : Cursor} : d ∈ c.run k ↔
    c.rest.takeWhile k.has ≠ [] ∧
      d = c.past (c.rest.takeWhile k.has) (c.rest.dropWhile k.has) [] := by
  unfold Cursor.run
  split
  · rename_i none_left
    simp [none_left]
  · rename_i b bs some_left
    rw [some_left, List.mem_singleton]
    have ne : b :: bs ≠ [] := List.cons_ne_nil b bs
    simp [Cursor.past, lastOf_of_ne_nil ne]

theorem exact_run (k : CharClass) : (run k).Exact := by
  intro c d
  rw [ways, mem_run_iff]
  constructor
  · rintro ⟨ne, rfl⟩
    refine ⟨_, _, [], List.takeWhile_append_dropWhile.symm, ⟨⟨ne, ?_, ?_⟩, rfl⟩, rfl⟩
    · intro a mem
      exact List.all_eq_true.mp List.all_takeWhile a mem
    · intro a mem
      have stop := List.head?_dropWhile_not k.has c.rest
      rw [Option.mem_def.mp mem] at stop
      exact stop
  · rintro ⟨s, rest, xs, same, ⟨⟨ne, all, stop⟩, rfl⟩, rfl⟩
    obtain ⟨taken, left⟩ := takeWhile_append_of_head all stop
    rw [same, taken, left]
    exact ⟨ne, rfl⟩

theorem exact_seq {p q : Pattern} (hp : p.Exact) (hq : q.Exact) : (seq p q).Exact := by
  intro c d
  rw [ways, List.mem_flatMap]
  constructor
  · rintro ⟨e, first, second⟩
    obtain ⟨s, left, xs, hs, spells, rfl⟩ := (hp c e).mp first
    obtain ⟨t, rest, ys, ht, spells', rfl⟩ := (hq _ d).mp second
    have ht : left = t ++ rest := ht
    subst ht
    refine ⟨s ++ t, rest, xs ++ ys, ?_, ⟨s, t, xs, ys, rfl, rfl, spells, spells'⟩, ?_⟩
    · rw [hs, List.append_assoc]
    · exact c.past_past s t (t ++ rest) rest xs ys
  · rintro ⟨s, rest, xs, hs, ⟨t, u, ys, zs, rfl, rfl, spells, spells'⟩, rfl⟩
    refine ⟨c.past t (u ++ rest) ys, (hp c _).mpr ⟨t, u ++ rest, ys, ?_, spells, rfl⟩,
      (hq _ _).mpr ⟨u, rest, zs, rfl, spells', ?_⟩⟩
    · rw [hs, List.append_assoc]
    · exact (c.past_past t u (u ++ rest) rest ys zs).symm

theorem exact_either {p q : Pattern} (hp : p.Exact) (hq : q.Exact) : (either p q).Exact := by
  intro c d
  rw [ways, List.mem_append, hp c d, hq c d]
  constructor
  · rintro (⟨s, rest, xs, hs, spells, same⟩ | ⟨s, rest, xs, hs, spells, same⟩)
    · exact ⟨s, rest, xs, hs, .inl spells, same⟩
    · exact ⟨s, rest, xs, hs, .inr spells, same⟩
  · rintro ⟨s, rest, xs, hs, spells | spells, same⟩
    · exact .inl ⟨s, rest, xs, hs, spells, same⟩
    · exact .inr ⟨s, rest, xs, hs, spells, same⟩

theorem exact_capture {p : Pattern} (hp : p.Exact) : (capture p).Exact := by
  intro c d
  have between : ∀ s rest xs, c.rest = s ++ rest → c.between (c.past s rest xs) = s := by
    intro s rest xs hs
    simp only [Cursor.between, Cursor.past, hs, Nat.add_sub_cancel_left, List.take_left]
  rw [ways, List.mem_map]
  constructor
  · rintro ⟨e, way, rfl⟩
    obtain ⟨s, rest, xs, hs, spells, rfl⟩ := (hp c e).mp way
    refine ⟨s, rest, xs ++ [s], hs, ⟨xs, spells, rfl⟩, ?_⟩
    rw [between s rest xs hs]
    simp only [Cursor.past, List.append_assoc]
  · rintro ⟨s, rest, xs, hs, ⟨ys, spells, rfl⟩, rfl⟩
    refine ⟨c.past s rest ys, (hp c _).mpr ⟨s, rest, ys, hs, spells, rfl⟩, ?_⟩
    rw [between s rest ys hs]
    simp only [Cursor.past, List.append_assoc]

/-! ## Repetition -/

/-- What is reached in at most `n` steps that take text. -/
def Reaches (step : Cursor → List Cursor) : Nat → Cursor → Cursor → Prop
  | 0, c, d => d = c
  | n + 1, c, d => d = c ∨ ∃ e ∈ step c, c.taken < e.taken ∧ Reaches step n e d

theorem mem_repeated_iff {step : Cursor → List Cursor} {n : Nat} {c d : Cursor}
    {later : List Cursor} :
    d ∈ Cursor.repeated step n c later ↔ Reaches step n c d ∨ d ∈ later := by
  induction n generalizing c later with
  | zero => rw [Cursor.repeated, Reaches, List.mem_cons]
  | succ n ih =>
    have through : ∀ es : List Cursor, d ∈ es.foldr (Cursor.repeated step n) (c :: later) ↔
        (∃ e ∈ es, Reaches step n e d) ∨ d = c ∨ d ∈ later := by
      intro es
      induction es with
      | nil => simp
      | cons e es ihs => simp [ih, ihs, or_assoc]
    rw [Cursor.repeated, through, Reaches]
    simp only [List.mem_filter, decide_eq_true_eq, and_assoc]
    constructor
    · rintro (later | rfl | later)
      · exact .inl (.inr later)
      · exact .inl (.inl rfl)
      · exact .inr later
    · rintro ((rfl | later) | later)
      · exact .inr (.inl rfl)
      · exact .inl later
      · exact .inr (.inr later)

theorem reaches_iff {p : Pattern} (hp : p.Exact) {n : Nat} {c d : Cursor}
    (enough : c.rest.length ≤ n) : Reaches p.ways n c d ↔
      ∃ s rest xs, c.rest = s ++ rest ∧ Repeats p.Spells c.prev s rest xs ∧
        d = c.past s rest xs := by
  -- Every round takes a character, so the length of the rest bounds the number of rounds.
  induction n generalizing c with
  | zero =>
    have empty : c.rest = [] := List.eq_nil_of_length_eq_zero (Nat.le_zero.mp enough)
    rw [Reaches]
    constructor
    · rintro rfl
      exact ⟨[], d.rest, [], rfl, .none, d.past_nil.symm⟩
    · rintro ⟨s, rest, xs, hs, spells, rfl⟩
      rw [empty] at hs
      cases spells with
      | none =>
        rw [← show c.rest = rest from empty.trans hs, c.past_nil]
      | more ne first others =>
        obtain ⟨nil, _⟩ := List.append_eq_nil_iff.mp (List.append_eq_nil_iff.mp hs.symm).1
        exact absurd nil ne
  | succ n ih =>
    rw [Reaches]
    constructor
    · rintro (rfl | ⟨e, way, progress, reached⟩)
      · exact ⟨[], d.rest, [], rfl, .none, d.past_nil.symm⟩
      · obtain ⟨s, left, xs, hs, spells, rfl⟩ := (hp c e).mp way
        have taken : 0 < s.length := by
          simp only [Cursor.past] at progress
          omega
        have fewer : left.length ≤ n := by
          rw [hs, List.length_append] at enough
          omega
        obtain ⟨t, rest, ys, ht, spells', rfl⟩ := (ih (c := c.past s left xs) fewer).mp reached
        have ht : left = t ++ rest := ht
        subst ht
        refine ⟨s ++ t, rest, xs ++ ys, ?_, .more (List.ne_nil_of_length_pos taken) spells spells',
          ?_⟩
        · rw [hs, List.append_assoc]
        · exact c.past_past s t (t ++ rest) rest xs ys
    · rintro ⟨s, rest, xs, hs, spells, rfl⟩
      cases spells with
      | none =>
        rw [← show c.rest = rest from hs, c.past_nil]
        exact .inl rfl
      | @more _ s t _ xs ys ne first others =>
        have taken : 0 < s.length := List.length_pos_iff.mpr ne
        have hs : c.rest = s ++ (t ++ rest) := by rw [hs, List.append_assoc]
        have fewer : (t ++ rest).length ≤ n := by
          rw [hs, List.length_append] at enough
          omega
        refine .inr ⟨c.past s (t ++ rest) xs, (hp c _).mpr ⟨s, _, xs, hs, first, rfl⟩, ?_,
          (ih fewer).mpr ⟨t, rest, ys, rfl, others, ?_⟩⟩
        · simp only [Cursor.past]
          omega
        · exact (c.past_past s t (t ++ rest) rest xs ys).symm

theorem exact_many {p : Pattern} (hp : p.Exact) : (many p).Exact := by
  intro c d
  rw [ways, mem_repeated_iff, reaches_iff hp (Nat.le_refl _)]
  simp only [List.not_mem_nil, or_false]
  rfl

theorem exact (p : Pattern) : p.Exact := by
  induction p with
  | literal cs => exact exact_literal cs
  | char k => exact exact_char k
  | run k => exact exact_run k
  | boundary => exact exact_boundary
  | seq p q hp hq => exact exact_seq hp hq
  | either p q hp hq => exact exact_either hp hq
  | many p hp => exact exact_many hp
  | capture p hp => exact exact_capture hp

theorem mem_ways_iff {p : Pattern} {c d : Cursor} : d ∈ p.ways c ↔
    ∃ s rest xs, c.rest = s ++ rest ∧ p.Spells c.prev s rest xs ∧ d = c.past s rest xs :=
  exact p c d

/-! ## Matches at one place -/

theorem spells_of_matchAt {p : Pattern} {prev : Option Char} {s : List Char} {m : Match}
    (h : p.matchAt prev s = some m) :
    ∃ rest, s = m.text ++ rest ∧ p.Spells prev m.text rest m.captures := by
  unfold matchAt at h
  split at h
  · cases h
  · rename_i c others ways
    have mem : c ∈ p.ways (Cursor.start prev s) := ways ▸ List.mem_cons_self
    obtain ⟨t, rest, xs, hs, spells, rfl⟩ := mem_ways_iff.mp mem
    have hs : s = t ++ rest := hs
    have text : s.take (0 + t.length) = t := by rw [hs, Nat.zero_add, List.take_left]
    cases h
    refine ⟨rest, ?_, ?_⟩
    · exact hs.trans (congrArg (· ++ rest) text.symm)
    · show p.Spells prev (s.take (0 + t.length)) rest ([] ++ xs)
      rw [text]
      exact spells

theorem matchAt_eq_none_iff {p : Pattern} {prev : Option Char} {s : List Char} :
    p.matchAt prev s = none ↔ ∀ t rest xs, s = t ++ rest → ¬p.Spells prev t rest xs := by
  constructor
  · intro h t rest xs hs spells
    have mem : (Cursor.start prev s).past t rest xs ∈ p.ways (Cursor.start prev s) :=
      mem_ways_iff.mpr ⟨t, rest, xs, hs, spells, rfl⟩
    unfold matchAt at h
    split at h
    · rename_i ways
      rw [ways] at mem
      cases mem
    · cases h
  · intro h
    cases found : p.matchAt prev s with
    | none => rfl
    | some m =>
      obtain ⟨rest, hs, spells⟩ := spells_of_matchAt found
      exact absurd spells (h _ _ _ hs)

end Pattern
end TextCatalog
