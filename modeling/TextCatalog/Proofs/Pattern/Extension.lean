import Mathlib.Data.List.Basic
import Mathlib.Data.List.TakeWhile
import TextCatalog.Proofs.Pattern.Openers
import TextCatalog.Proofs.Text.Classes

/-!
# TextCatalog.Proofs.Pattern.Extension

What more text at the end changes for a search.

* `Extends`, `ways_extends` — the ways into the longer text are the old ones in their order, and
  between them ways that go on into what was added.
* `lacks`, `isSolid`, `endsInInk`, `IsContained` — patterns with no ways of that kind where blanks
  and a character that they never spell were added.
* `findAll_extend` — such a pattern finds what it has found, and what it finds after the character.
-/

namespace TextCatalog

open Text

/-- No run over the class goes on from the one text into the other. -/
def CharClass.Parts (k : CharClass) (s e : List Char) : Prop :=
  ∀ a ∈ s.getLast?, ∀ b ∈ e.head?, k.has a = true → k.has b = false

theorem CharClass.Parts.suffix {k : CharClass} {s t e : List Char} (h : k.Parts (s ++ t) e) :
    k.Parts t e := by
  intro a last
  refine h a ?_
  rw [List.getLast?_append, Option.mem_def.mp last]
  rfl

/-- No character of the class is blank. -/
def CharClass.isInk : CharClass → Bool
  | .among cs => cs.all fun c => !isBlank c
  | .span first last => decide ('!' ≤ first) && decide (last ≤ '~')
  | .blank => false
  | .word | .digit => true

theorem CharClass.isBlank_of_isInk {k : CharClass} {c : Char} (h : k.isInk = true)
    (has : k.has c = true) : isBlank c = false := by
  cases k with
  | among cs => simpa using List.all_eq_true.mp h c (List.contains_iff_mem.mp has)
  | span first last =>
    obtain ⟨low, high⟩ := Bool.and_eq_true_iff.mp h
    obtain ⟨above, below⟩ := Bool.and_eq_true_iff.mp has
    exact isBlank_of_printable (Char.le_trans (of_decide_eq_true low) (of_decide_eq_true above))
      (Char.le_trans (of_decide_eq_true below) (of_decide_eq_true high))
  | word => exact isBlank_of_isWord has
  | blank => cases h
  | digit =>
    cases blank : isBlank c with
    | false => rfl
    | true =>
      have digit : isDigit c = true := has
      rw [isDigit_of_isBlank blank] at digit
      cases digit

namespace Cursor

def extend (e : List Char) (c : Cursor) : Cursor := { c with rest := c.rest ++ e }

/--
Cursors for the longer text and for the shorter one. A cursor that is left out has gone on into
what was added.
-/
inductive Extends (e : List Char) : List Cursor → List Cursor → Prop where
  | nil : Extends e [] []
  | kept {d : Cursor} {cs ds : List Cursor} (others : Extends e cs ds) :
    Extends e (d.extend e :: cs) (d :: ds)
  | left {c : Cursor} {cs ds : List Cursor} (beyond : c.rest.length < e.length)
    (others : Extends e cs ds) : Extends e (c :: cs) ds

variable {e : List Char} {c : Cursor} {cs ds cs' ds' later later' : List Cursor}

namespace Extends

theorem single (e : List Char) (c : Cursor) : Extends e [c.extend e] [c] := .kept .nil

theorem of_beyond (h : ∀ c ∈ cs, c.rest.length < e.length) : Extends e cs [] := by
  induction cs with
  | nil => exact .nil
  | cons c cs ih =>
    exact .left (h c List.mem_cons_self) (ih fun d mem => h d (List.mem_cons_of_mem c mem))

theorem append (h : Extends e cs ds) (h' : Extends e cs' ds') :
    Extends e (cs ++ cs') (ds ++ ds') := by
  induction h with
  | nil => exact h'
  | kept _ ih => exact .kept ih
  | left beyond _ ih => exact .left beyond ih

theorem filter {f : Cursor → Bool} (same : ∀ d : Cursor, f (d.extend e) = f d)
    (h : Extends e cs ds) : Extends e (cs.filter f) (ds.filter f) := by
  induction h with
  | nil => exact .nil
  | @kept d _ _ _ ih =>
    rw [List.filter_cons, List.filter_cons, same]
    split
    · exact .kept ih
    · exact ih
  | left beyond _ ih =>
    rw [List.filter_cons]
    split
    · exact .left beyond ih
    · exact ih

theorem map {f g : Cursor → Cursor} (h : Extends e cs ds)
    (same : ∀ d ∈ ds, f (d.extend e) = (g d).extend e) (rest : ∀ c, (f c).rest = c.rest) :
    Extends e (cs.map f) (ds.map g) := by
  induction h with
  | nil => exact .nil
  | @kept d _ _ _ ih =>
    rw [List.map_cons, List.map_cons, same d List.mem_cons_self]
    exact .kept (ih fun d' mem => same d' (List.mem_cons_of_mem d mem))
  | left beyond _ ih =>
    rw [List.map_cons]
    exact .left (by rw [rest]; exact beyond) (ih same)

theorem flatMap {f g : Cursor → List Cursor} (h : Extends e cs ds)
    (each : ∀ d ∈ ds, Extends e (f (d.extend e)) (g d))
    (on : ∀ c, ∀ d ∈ f c, d.rest.length ≤ c.rest.length) :
    Extends e (cs.flatMap f) (ds.flatMap g) := by
  induction h with
  | nil => exact .nil
  | @kept d _ _ _ ih =>
    rw [List.flatMap_cons, List.flatMap_cons]
    exact (each d List.mem_cons_self).append
      (ih fun d' mem => each d' (List.mem_cons_of_mem d mem))
  | @left c _ _ beyond _ ih =>
    rw [List.flatMap_cons]
    exact (of_beyond fun d mem => Nat.lt_of_le_of_lt (on c d mem) beyond).append (ih each)

/-- Where no cursor has gone on, the longer text has the same cursors. -/
theorem eq_map (h : Extends e cs ds) (within : ∀ c ∈ cs, e.length ≤ c.rest.length) :
    cs = ds.map (extend e) := by
  induction h with
  | nil => rfl
  | kept _ ih =>
    rw [List.map_cons, ← ih fun c mem => within c (List.mem_cons_of_mem _ mem)]
  | left beyond _ _ => exact absurd (within _ List.mem_cons_self) (Nat.not_le.mpr beyond)

end Extends

/-! ## Leaves -/

theorem literal_extends (cs : List Char) (c : Cursor) :
    Extends e ((c.extend e).literal cs) (c.literal cs) := by
  induction cs generalizing c with
  | nil => exact .single e c
  | cons a cs ih =>
    obtain ⟨prev, text, taken, captures⟩ := c
    cases text with
    | nil =>
      -- The literal begins in what was added.
      refine .of_beyond fun d mem => ?_
      obtain ⟨rest, same, rfl⟩ := Pattern.mem_literal_iff.mp mem
      have same : e = a :: cs ++ rest := same
      simp only [past, same, List.length_append, List.length_cons]
      omega
    | cons b text =>
      simp only [literal, extend, List.cons_append]
      split
      · exact ih ⟨some b, text, taken + 1, captures⟩
      · exact .nil

theorem char_extends (k : CharClass) (c : Cursor) :
    Extends e ((c.extend e).char k) (c.char k) := by
  obtain ⟨prev, text, taken, captures⟩ := c
  cases text with
  | nil =>
    refine .of_beyond fun d mem => ?_
    obtain ⟨s, rest, xs, same, ⟨⟨a, rfl, _⟩, rfl⟩, rfl⟩ := (Pattern.exact_char k _ d).mp mem
    have same : e = [a] ++ rest := same
    simp only [past, same, List.length_append, List.length_cons]
    omega
  | cons b text =>
    simp only [char, extend, List.cons_append]
    split
    · exact .single e ⟨some b, text, taken + 1, captures⟩
    · exact .nil

theorem takeWhile_extend {has : Char → Bool} {s : List Char} (ne : s ≠ [])
    (parts : ∀ a ∈ s.getLast?, ∀ b ∈ e.head?, has a = true → has b = false) :
    (s ++ e).takeWhile has = s.takeWhile has ∧ (s ++ e).dropWhile has = s.dropWhile has ++ e := by
  rw [List.takeWhile_append, List.dropWhile_append]
  by_cases all : ∀ a ∈ s, has a = true
  · have stop : ∀ b ∈ e.head?, has b = false := fun b first =>
      parts _ (List.getLast?_eq_some_getLast ne) b first (all _ (List.getLast_mem ne))
    rw [List.takeWhile_eq_self_iff.mpr all, List.dropWhile_eq_nil_iff.mpr all,
      (Pattern.takeWhile_of_head stop).1, (Pattern.takeWhile_of_head stop).2]
    simp
  · have some_left : s.dropWhile has ≠ [] := fun none_left =>
      all (List.dropWhile_eq_nil_iff.mp none_left)
    have shorter : (s.takeWhile has).length ≠ s.length := by
      intro same
      have split := congrArg List.length (List.takeWhile_append_dropWhile (p := has) (l := s))
      rw [List.length_append, same] at split
      exact some_left (List.eq_nil_of_length_eq_zero (by omega))
    rw [if_neg shorter, List.isEmpty_eq_false_iff.mpr some_left]
    exact ⟨rfl, rfl⟩

theorem run_extends {k : CharClass} (parts : k.Parts c.rest e) :
    Extends e ((c.extend e).run k) (c.run k) := by
  obtain ⟨prev, text, taken, captures⟩ := c
  cases text with
  | nil =>
    refine .of_beyond fun d mem => ?_
    obtain ⟨ne, rfl⟩ := Pattern.mem_run_iff.mp mem
    have ne : e.takeWhile k.has ≠ [] := ne
    have split := congrArg List.length (List.takeWhile_append_dropWhile (p := k.has) (l := e))
    have taken := List.length_pos_iff.mpr ne
    rw [List.length_append] at split
    show (e.dropWhile k.has).length < e.length
    omega
  | cons b text =>
    obtain ⟨same, left⟩ := takeWhile_extend (List.cons_ne_nil b text) parts
    simp only [run, extend, same, left]
    split
    · exact .nil
    · rename_i a as _
      exact .single e ⟨some ((a :: as).getLast (List.cons_ne_nil a as)),
        (b :: text).dropWhile k.has, taken + (a :: as).length, captures⟩

theorem boundary_extends (outside : e.head?.any isWord = false) (c : Cursor) :
    Extends e (c.extend e).boundary c.boundary := by
  have after : (c.extend e).wordAfter = c.wordAfter := by
    obtain ⟨prev, text, taken, captures⟩ := c
    cases text with
    | nil => exact outside
    | cons b text => rfl
  simp only [boundary, after]
  have before : (c.extend e).wordBefore = c.wordBefore := rfl
  rw [before]
  split
  · exact .single e c
  · exact .nil

/-! ## Repetition -/

/-- Steps that take text leave less of it. -/
def Consumes (step : Cursor → List Cursor) : Prop :=
  ∀ c, ∀ d ∈ step c, ∃ s, c.rest = s ++ d.rest ∧ d.taken = c.taken + s.length

variable {step : Cursor → List Cursor}

theorem Consumes.le (h : Consumes step) {d : Cursor} (mem : d ∈ step c) :
    d.rest.length ≤ c.rest.length := by
  obtain ⟨s, text, _⟩ := h c d mem
  rw [text, List.length_append]
  omega

theorem Consumes.lt (h : Consumes step) {d : Cursor}
    (mem : d ∈ (step c).filter fun d => c.taken < d.taken) : d.rest.length < c.rest.length := by
  obtain ⟨way, progress⟩ := List.mem_filter.mp mem
  obtain ⟨s, text, taken⟩ := h c d way
  have progress := of_decide_eq_true progress
  rw [text, List.length_append]
  omega

/-- More rounds than there are characters add nothing. -/
theorem repeated_succ (h : Consumes step) {n : Nat} (enough : c.rest.length ≤ n) :
    repeated step (n + 1) c later = repeated step n c later := by
  induction n generalizing c later with
  | zero =>
    have none_left : (step c).filter (fun d => c.taken < d.taken) = [] :=
      List.eq_nil_iff_forall_not_mem.mpr fun d mem => by
        have := h.lt mem
        omega
    simp only [repeated, none_left, List.foldr_nil]
  | succ n ih =>
    rw [repeated, repeated]
    refine List.foldr_ext _ _ _ fun d mem rest => ?_
    have := h.lt mem
    exact ih (by omega)

theorem repeated_add (h : Consumes step) {n : Nat} (enough : c.rest.length ≤ n) (m : Nat) :
    repeated step (n + m) c later = repeated step n c later := by
  induction m with
  | zero => rfl
  | succ m ih => rw [← Nat.add_assoc, repeated_succ h (by omega), ih]

theorem Consumes.reaches_le (h : Consumes step) {n : Nat} {d : Cursor}
    (reached : Pattern.Reaches step n c d) : d.rest.length ≤ c.rest.length := by
  induction n generalizing c with
  | zero => rw [show d = c from reached]
  | succ n ih =>
    rcases reached with rfl | ⟨c', mem, _, reached⟩
    · exact Nat.le_refl _
    · exact Nat.le_trans (ih reached) (h.le mem)

theorem repeated_eq_append (step : Cursor → List Cursor) (n : Nat) (c : Cursor)
    (later : List Cursor) : repeated step n c later = repeated step n c [] ++ later := by
  induction n generalizing c later with
  | zero => rfl
  | succ n ih =>
    have through : ∀ (es later : List Cursor), es.foldr (repeated step n) later =
        es.foldr (repeated step n) [] ++ later := by
      intro es later
      induction es with
      | nil => rfl
      | cons e es ihs =>
        rw [List.foldr_cons, List.foldr_cons, ih, ihs, ih e (es.foldr (repeated step n) []),
          List.append_assoc]
    rw [repeated, repeated, through, through _ [c], List.append_assoc]
    rfl

theorem repeated_beyond (h : Consumes step) (beyond : c.rest.length < e.length) (n : Nat)
    (others : Extends e later ds) : Extends e (repeated step n c later) ds := by
  rw [repeated_eq_append]
  have none_left : Extends e (repeated step n c []) [] := by
    refine .of_beyond fun d mem => ?_
    have reached := (Pattern.mem_repeated_iff.mp mem).resolve_right List.not_mem_nil
    exact Nat.lt_of_le_of_lt (h.reaches_le reached) beyond
  exact none_left.append others

/-- One round after the other, for the cursors that stay within the shorter text. -/
theorem repeated_extends (h : Consumes step) {P : Cursor → Prop}
    (keeps : ∀ c, P c → ∀ d ∈ step c, P d)
    (one : ∀ c, P c → Extends e (step (c.extend e)) (step c)) (n : Nat) (start : P c)
    (others : Extends e later later') :
    Extends e (repeated step n (c.extend e) later) (repeated step n c later') := by
  induction n generalizing c later later' with
  | zero => exact .kept others
  | succ n ih =>
    have progress : Extends e ((step (c.extend e)).filter fun d => (c.extend e).taken < d.taken)
        ((step c).filter fun d => c.taken < d.taken) := (one c start).filter fun d => rfl
    have through : ∀ {es ds : List Cursor}, Extends e es ds → (∀ d ∈ ds, P d) →
        Extends e (es.foldr (repeated step n) (c.extend e :: later))
          (ds.foldr (repeated step n) (c :: later')) := by
      intro es ds pairs all
      induction pairs with
      | nil => exact .kept others
      | kept _ ihs =>
        exact ih (all _ List.mem_cons_self) (ihs fun d mem => all d (List.mem_cons_of_mem _ mem))
      | left beyond _ ihs => exact repeated_beyond h beyond n (ihs all)
    exact through progress fun d mem => keeps c start d ((List.mem_filter.mp mem).1)

end Cursor

namespace Pattern

open Cursor

variable {p : Pattern} {c : Cursor} {e u gap r : List Char} {x : Char} {prev : Option Char}

/-- The classes over which the pattern takes runs. -/
def runs : Pattern → List CharClass
  | .run k => [k]
  | .seq p q | .either p q => p.runs ++ q.runs
  | .many p | .capture p => p.runs
  | _ => []

theorem consumes (p : Pattern) : Consumes p.ways := by
  intro c d mem
  obtain ⟨s, rest, xs, text, _, rfl⟩ := mem_ways_iff.mp mem
  exact ⟨s, text, rfl⟩

theorem parts_of_mem_ways {k : CharClass} {d : Cursor} (parts : k.Parts c.rest e)
    (mem : d ∈ p.ways c) : k.Parts d.rest e := by
  obtain ⟨s, text, _⟩ := p.consumes c d mem
  rw [text] at parts
  exact parts.suffix

theorem ways_extends (outside : e.head?.any isWord = false)
    (parts : ∀ k ∈ p.runs, k.Parts c.rest e) : Extends e (p.ways (c.extend e)) (p.ways c) := by
  induction p generalizing c with
  | literal cs => exact literal_extends cs c
  | char k => exact char_extends k c
  | run k => exact run_extends (parts k List.mem_cons_self)
  | boundary => exact boundary_extends outside c
  | seq p q hp hq =>
    refine (hp fun k mem => parts k (List.mem_append_left _ mem)).flatMap ?_ ?_
    · intro d way
      exact hq fun k mem => parts_of_mem_ways (parts k (List.mem_append_right _ mem)) way
    · exact fun c d mem => q.consumes.le mem
  | either p q hp hq =>
    exact (hp fun k mem => parts k (List.mem_append_left _ mem)).append
      (hq fun k mem => parts k (List.mem_append_right _ mem))
  | many p hp =>
    have more : (c.extend e).rest.length = c.rest.length + e.length := List.length_append
    have longer : p.many.ways (c.extend e) =
        repeated p.ways (c.extend e).rest.length (c.extend e) [] := rfl
    have step := repeated_extends (P := fun c => ∀ k ∈ p.runs, k.Parts c.rest e) p.consumes
      (fun c all d way k mem => parts_of_mem_ways (all k mem) way) (fun c all => hp all)
      (c.rest.length + e.length) parts .nil
    rw [repeated_add p.consumes (Nat.le_refl _)] at step
    rw [longer, more]
    exact step
  | capture p hp =>
    refine (hp parts).map ?_ fun _ => rfl
    intro d mem
    obtain ⟨s, text, taken⟩ := p.consumes c d mem
    have same : (c.extend e).between (d.extend e) = c.between d := by
      simp only [between, extend, taken, text, Nat.add_sub_cancel_left, List.append_assoc,
        List.take_left]
    rw [same]
    rfl

/-! ## Contained patterns -/

/-- No spelled text holds the character. -/
def lacks (x : Char) : Pattern → Bool
  | .literal cs => !cs.contains x
  | .char k | .run k => !k.has x
  | .boundary => true
  | .seq p q | .either p q => p.lacks x && q.lacks x
  | .many p | .capture p => p.lacks x

/-- Every spelled text has a character. -/
def isSolid : Pattern → Bool
  | .literal cs => !cs.isEmpty
  | .char _ | .run _ => true
  | .boundary | .many _ => false
  | .seq p q => p.isSolid || q.isSolid
  | .either p q => p.isSolid && q.isSolid
  | .capture p => p.isSolid

/-- No spelled text ends in a blank. -/
def endsInInk : Pattern → Bool
  | .literal cs => cs.getLast?.all fun c => !isBlank c
  | .char k | .run k => k.isInk
  | .boundary => true
  | .seq p q => q.endsInInk && (p.endsInInk || q.isSolid)
  | .either p q => p.endsInInk && q.endsInInk
  | .many p | .capture p => p.endsInInk

variable {s rest : List Char} {xs : List (List Char)}

theorem Spells.lacks (h : p.lacks x = true) (spells : p.Spells prev s rest xs) : x ∉ s := by
  induction p generalizing prev s rest xs with
  | literal cs =>
    rw [spells.1]
    simpa [Pattern.lacks] using h
  | char k =>
    obtain ⟨⟨c, rfl, has⟩, _⟩ := spells
    rintro mem
    rw [← List.mem_singleton.mp mem] at has
    simp [Pattern.lacks, has] at h
  | run k =>
    obtain ⟨⟨_, all, _⟩, _⟩ := spells
    intro mem
    simp [Pattern.lacks, all x mem] at h
  | boundary =>
    rw [spells.1.1]
    exact List.not_mem_nil
  | seq p q hp hq =>
    obtain ⟨left, right⟩ := Bool.and_eq_true_iff.mp h
    obtain ⟨t, u, ys, zs, rfl, _, first, second⟩ := spells
    intro mem
    exact (List.mem_append.mp mem).elim (hp left first) (hq right second)
  | either p q hp hq =>
    obtain ⟨left, right⟩ := Bool.and_eq_true_iff.mp h
    exact spells.elim (hp left) (hq right)
  | many p hp =>
    change Repeats p.Spells prev s rest xs at spells
    induction spells with
    | none => exact List.not_mem_nil
    | more _ first _ ih =>
      intro mem
      exact (List.mem_append.mp mem).elim (hp h first) ih
  | capture p hp =>
    obtain ⟨ys, spells, _⟩ := spells
    exact hp h spells

theorem Spells.ne_nil (h : p.isSolid = true) (spells : p.Spells prev s rest xs) : s ≠ [] := by
  induction p generalizing prev s rest xs with
  | literal cs =>
    rw [spells.1]
    simpa [isSolid] using h
  | char k =>
    obtain ⟨⟨c, rfl, _⟩, _⟩ := spells
    exact List.cons_ne_nil c []
  | run k => exact spells.1.1
  | boundary => cases h
  | seq p q hp hq =>
    obtain ⟨t, u, ys, zs, rfl, _, first, second⟩ := spells
    rcases Bool.or_eq_true_iff.mp h with left | right
    · exact List.append_ne_nil_of_left_ne_nil (hp left first) u
    · exact List.append_ne_nil_of_right_ne_nil t (hq right second)
  | either p q hp hq =>
    obtain ⟨left, right⟩ := Bool.and_eq_true_iff.mp h
    exact spells.elim (hp left) (hq right)
  | many p _ => cases h
  | capture p hp =>
    obtain ⟨ys, spells, _⟩ := spells
    exact hp h spells

/-- The last character of two texts is in the first one only if the second one is empty. -/
theorem ink_append {s t : List Char} (ht : ∀ c ∈ t.getLast?, isBlank c = false)
    (hs : t = [] → ∀ c ∈ s.getLast?, isBlank c = false) :
    ∀ c ∈ (s ++ t).getLast?, isBlank c = false := by
  intro c last
  rw [List.getLast?_append] at last
  cases later : t.getLast? with
  | none =>
    rw [later, Option.none_or] at last
    exact hs (List.getLast?_eq_none_iff.mp later) c last
  | some d =>
    rw [later, Option.some_or] at last
    cases last
    exact ht _ later

theorem Spells.ends (h : p.endsInInk = true) (spells : p.Spells prev s rest xs) :
    ∀ c ∈ s.getLast?, isBlank c = false := by
  induction p generalizing prev s rest xs with
  | literal cs =>
    rw [spells.1]
    intro c last
    rw [endsInInk, Option.mem_def.mp last] at h
    simpa using h
  | char k =>
    obtain ⟨⟨c, rfl, has⟩, _⟩ := spells
    rintro d ⟨⟩
    exact CharClass.isBlank_of_isInk h has
  | run k =>
    obtain ⟨⟨_, all, _⟩, _⟩ := spells
    exact fun c last => CharClass.isBlank_of_isInk h (all c (List.mem_of_getLast? last))
  | boundary =>
    rw [spells.1.1]
    rintro c ⟨⟩
  | seq p q hp hq =>
    obtain ⟨right, left⟩ := Bool.and_eq_true_iff.mp h
    obtain ⟨t, u, ys, zs, rfl, _, first, second⟩ := spells
    refine ink_append (hq right second) fun none_left => ?_
    rcases Bool.or_eq_true_iff.mp left with left | solid
    · exact hp left first
    · exact absurd none_left (Spells.ne_nil solid second)
  | either p q hp hq =>
    obtain ⟨left, right⟩ := Bool.and_eq_true_iff.mp h
    exact spells.elim (hp left) (hq right)
  | many p hp =>
    change Repeats p.Spells prev s rest xs at spells
    induction spells with
    | none => rintro c ⟨⟩
    | more _ first _ ih => exact ink_append ih fun _ => hp h first
  | capture p hp =>
    obtain ⟨ys, spells, _⟩ := spells
    exact hp h spells

/-- No word, no number and no gap goes on at the character. -/
structure IsStop (x : Char) : Prop where
  ink : isBlank x = false
  noWord : isWord x = false
  noDigit : isDigit x = false

/-- What the pattern finds never goes on to a stop, and never ends before one in a blank. -/
structure IsContained (p : Pattern) (x : Char) : Prop where
  lacks : p.lacks x = true
  solid : p.isSolid = true
  ink : p.endsInInk = true
  runs : ∀ k ∈ p.runs, k ∈ [CharClass.word, .blank, .digit]

instance (p : Pattern) (x : Char) : Decidable (p.IsContained x) :=
  decidable_of_iff (p.lacks x = true ∧ p.isSolid = true ∧ p.endsInInk = true ∧
      ∀ k ∈ p.runs, k ∈ [CharClass.word, .blank, .digit])
    ⟨fun h => ⟨h.1, h.2.1, h.2.2.1, h.2.2.2⟩, fun h => ⟨h.lacks, h.solid, h.ink, h.runs⟩⟩

theorem head_stop (stop : IsStop x) (blank : ∀ c ∈ gap, isBlank c = true) :
    ∀ c ∈ (gap ++ x :: r).head?, isWord c = false ∧ isDigit c = false := by
  cases gap with
  | nil =>
    rintro c ⟨⟩
    exact ⟨stop.noWord, stop.noDigit⟩
  | cons b gap =>
    rintro c ⟨⟩
    have space := blank b List.mem_cons_self
    exact ⟨isWord_of_isBlank space, isDigit_of_isBlank space⟩

theorem parts_stop (stop : IsStop x) (blank : ∀ c ∈ gap, isBlank c = true)
    (ink : ∀ c ∈ u.getLast?, isBlank c = false) {k : CharClass}
    (known : k ∈ [CharClass.word, .blank, .digit]) : k.Parts u (gap ++ x :: r) := by
  intro a last b first has
  obtain ⟨noWord, noDigit⟩ := head_stop stop blank b first
  simp only [List.mem_cons, List.not_mem_nil, or_false] at known
  rcases known with rfl | rfl | rfl
  · exact noWord
  · have space : isBlank a = true := has
    rw [ink a last] at space
    cases space
  · exact noDigit

/-- A spelled text that begins before the blanks and the stop ends there, too. -/
theorem Spells.within (h : p.IsContained x) (blank : ∀ c ∈ gap, isBlank c = true)
    (spells : p.Spells prev s rest xs) (text : u ++ (gap ++ x :: r) = s ++ rest) :
    s.length ≤ u.length := by
  rcases List.append_eq_append_iff.mp text with ⟨t, rfl, added⟩ | ⟨t, rfl, _⟩
  · -- What is taken of the added text holds no stop, so that it is blank.
    have allBlank : ∀ c ∈ t, isBlank c = true := by
      rcases List.append_eq_append_iff.mp added with ⟨v, rfl, later⟩ | ⟨v, rfl, _⟩
      · cases v with
        | nil =>
          rw [List.append_nil]
          exact blank
        | cons y v =>
          cases later
          have mem : x ∈ u ++ (gap ++ x :: v) := by simp
          exact absurd mem (spells.lacks h.lacks)
      · exact fun c mem => blank c (List.mem_append_left _ mem)
    cases last : t.getLast? with
    | none =>
      rw [List.getLast?_eq_none_iff.mp last, List.append_nil]
    | some c =>
      have final : (u ++ t).getLast? = some c := by
        rw [List.getLast?_append, last]
        rfl
      have ink := spells.ends h.ink c final
      rw [allBlank c (List.mem_of_getLast? last)] at ink
      cases ink
  · rw [List.length_append]
    omega

theorem ways_extend (h : p.IsContained x) (stop : IsStop x) (blank : ∀ c ∈ gap, isBlank c = true)
    (ink : ∀ c ∈ u.getLast?, isBlank c = false) (prev : Option Char) :
    p.ways (Cursor.start prev (u ++ (gap ++ x :: r))) =
      (p.ways (Cursor.start prev u)).map (Cursor.extend (gap ++ x :: r)) := by
  have outside : (gap ++ x :: r).head?.any isWord = false := by
    cases first : (gap ++ x :: r).head? with
    | none => rfl
    | some c => exact (head_stop stop blank c first).1
  have parts : ∀ k ∈ p.runs, k.Parts (Cursor.start prev u).rest (gap ++ x :: r) :=
    fun k mem => parts_stop stop blank ink (h.runs k mem)
  refine (ways_extends outside parts).eq_map fun d way => ?_
  obtain ⟨s, rest, xs, text, spells, rfl⟩ := mem_ways_iff.mp way
  have text : u ++ (gap ++ x :: r) = s ++ rest := text
  have within := spells.within h blank text
  have lengths : u.length + (gap ++ x :: r).length = s.length + rest.length := by
    rw [← List.length_append, text, List.length_append]
  show (gap ++ x :: r).length ≤ rest.length
  omega

theorem matchAt_extend (h : p.IsContained x) (stop : IsStop x)
    (blank : ∀ c ∈ gap, isBlank c = true) (ink : ∀ c ∈ u.getLast?, isBlank c = false)
    (prev : Option Char) : p.matchAt prev (u ++ (gap ++ x :: r)) = p.matchAt prev u := by
  unfold matchAt
  rw [ways_extend h stop blank ink]
  cases found : p.ways (Cursor.start prev u) with
  | nil => rfl
  | cons c cs =>
    have way : c ∈ p.ways (Cursor.start prev u) := found ▸ List.mem_cons_self
    obtain ⟨s, text, taken⟩ := p.consumes _ c way
    have text : u = s ++ c.rest := text
    have short : c.taken ≤ u.length := by
      rw [text, List.length_append, taken]
      simp [Cursor.start]
    show some (Match.mk ((u ++ (gap ++ x :: r)).take c.taken) c.captures) = _
    rw [List.take_append_of_le_length short]

/-! ## Searching in the longer text -/

theorem scan_gap (h : p.IsContained x) (blank : ∀ c ∈ gap, isBlank c = true) (prev : Option Char) :
    p.scan prev 0 (gap ++ x :: r) = p.scan (some x) 0 r := by
  have nothing : ∀ {gap : List Char} {prev : Option Char}, (∀ c ∈ gap, isBlank c = true) →
      p.matchAt prev (gap ++ x :: r) = none := by
    intro gap prev blank
    refine matchAt_eq_none_iff.mpr fun t rest xs text spells => ?_
    have short := spells.within (u := []) h blank text
    exact spells.ne_nil h.solid (List.eq_nil_of_length_eq_zero (Nat.le_zero.mp short))
  induction gap generalizing prev with
  | nil => exact scan_of_matchAt_none (nothing blank)
  | cons c gap ih =>
    have here : p.matchAt prev (c :: (gap ++ x :: r)) = none := nothing blank
    rw [List.cons_append, scan_of_matchAt_none here]
    exact ih (fun d mem => blank d (List.mem_cons_of_mem c mem)) (some c)

theorem scan_extend (h : p.IsContained x) (stop : IsStop x) (blank : ∀ c ∈ gap, isBlank c = true)
    (ink : ∀ c ∈ u.getLast?, isBlank c = false) {skip : Nat} (short : skip ≤ u.length) :
    p.scan prev skip (u ++ (gap ++ x :: r)) = p.scan prev skip u ++ p.scan (some x) 0 r := by
  induction u generalizing prev skip with
  | nil =>
    obtain rfl : skip = 0 := Nat.le_zero.mp short
    have none_left : p.scan prev 0 [] = [] := by unfold scan; rfl
    rw [List.nil_append, scan_gap h blank, none_left]
    rfl
  | cons c u ih =>
    have later : ∀ d ∈ u.getLast?, isBlank d = false := by
      intro d last
      refine ink d ?_
      rw [← List.singleton_append, List.getLast?_append, Option.mem_def.mp last]
      rfl
    cases skip with
    | succ skip =>
      rw [List.cons_append, scan, scan]
      exact ih later (by simpa using short)
    | zero =>
      have same := matchAt_extend (r := r) h stop blank ink prev
      rw [List.cons_append] at same ⊢
      rw [scan, scan, same]
      cases found : p.matchAt prev (c :: u) with
      | none => exact ih later (Nat.zero_le _)
      | some m =>
        obtain ⟨post, text, _⟩ := spells_of_matchAt found
        have lengths := congrArg List.length text
        rw [List.length_cons, List.length_append] at lengths
        exact congrArg (m :: ·) (ih later (by omega))

theorem findAll_extend (h : p.IsContained x) (stop : IsStop x)
    (blank : ∀ c ∈ gap, isBlank c = true) (ink : ∀ c ∈ u.getLast?, isBlank c = false)
    (r : List Char) :
    p.findAll (u ++ (gap ++ x :: r)) = p.findAll u ++ p.scan (some x) 0 r :=
  scan_extend h stop blank ink (Nat.zero_le _)

end Pattern
end TextCatalog
