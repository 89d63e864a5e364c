import TextCatalog.Proofs.Pattern.Prefers

/-!
# TextCatalog.Proofs.Pattern.Openers

What a pattern can begin with, so that a search can be seen to pass over words.

* `openers` — the literal beginnings of a pattern, and whether they are all of it.
* `exists_opener` — every spelling begins with one of them.
* `isBounded`, `leads` — a pattern that starts at a boundary, and the words it can start in.
* `scan_word`, `scan_others`, `scan_joined` — words that no lead begins are passed over.
-/

namespace TextCatalog
namespace Pattern

open Text

/-- A literal beginning, with `true` if nothing more is spelled after it. -/
def openers : Pattern → List (List Char × Bool)
  | .literal cs => [(cs, true)]
  | .boundary => [([], true)]
  | .char _ | .run _ | .many _ => [([], false)]
  | .seq p q => p.openers.flatMap fun o =>
    if o.2 then q.openers.map fun r => (o.1 ++ r.1, r.2) else [o]
  | .either p q => p.openers ++ q.openers
  | .capture p => p.openers

variable {p : Pattern} {prev : Option Char} {s rest : List Char} {xs : List (List Char)}

theorem exists_opener (h : p.Spells prev s rest xs) :
    ∃ o ∈ p.openers, o.1 <+: s ∧ (o.2 = true → o.1 = s) := by
  induction p generalizing prev s rest xs with
  | literal cs => exact ⟨_, List.mem_cons_self, h.1 ▸ List.prefix_refl s, fun _ => h.1.symm⟩
  | boundary => exact ⟨_, List.mem_cons_self, List.nil_prefix, fun _ => h.1.1.symm⟩
  | char k => exact ⟨_, List.mem_cons_self, List.nil_prefix, fun whole => by cases whole⟩
  | run k => exact ⟨_, List.mem_cons_self, List.nil_prefix, fun whole => by cases whole⟩
  | many p _ => exact ⟨_, List.mem_cons_self, List.nil_prefix, fun whole => by cases whole⟩
  | seq p q hp hq =>
    obtain ⟨t, u, ys, zs, rfl, rfl, first, second⟩ := h
    obtain ⟨o, mem, begins, whole⟩ := hp first
    -- An opener that is not all of the first part says nothing about the second.
    cases open_end : o.2 with
    | false =>
      refine ⟨o, List.mem_flatMap.mpr ⟨o, mem, ?_⟩, begins.trans (List.prefix_append t u), ?_⟩
      · rw [open_end]
        exact List.mem_cons_self
      · rw [open_end]
        intro closed
        cases closed
    | true =>
      obtain ⟨r, mem', begins', whole'⟩ := hq second
      have all := whole open_end
      refine ⟨(o.1 ++ r.1, r.2), List.mem_flatMap.mpr ⟨o, mem, ?_⟩, ?_, ?_⟩
      · rw [open_end]
        exact List.mem_map_of_mem mem'
      · rw [all]
        exact (List.prefix_append_right_inj t).mpr begins'
      · intro closed
        rw [all, whole' closed]
  | either p q hp hq =>
    cases h with
    | inl h =>
      obtain ⟨o, mem, begins⟩ := hp h
      exact ⟨o, List.mem_append_left _ mem, begins⟩
    | inr h =>
      obtain ⟨o, mem, begins⟩ := hq h
      exact ⟨o, List.mem_append_right _ mem, begins⟩
  | capture p hp =>
    obtain ⟨ys, h, _⟩ := h
    exact hp h

theorem fails_of_openers (h : (p.openers.all fun o => !o.1.isPrefixOf s) = true) :
    p.Fails prev s := by
  rintro t rest xs rfl spells
  obtain ⟨o, mem, begins, _⟩ := exists_opener spells
  have not_prefix := List.all_eq_true.mp h o mem
  rw [List.isPrefixOf_iff_prefix.mpr (begins.trans (List.prefix_append t rest))] at not_prefix
  cases not_prefix

/-! ## Words -/

def isBounded : Pattern → Bool
  | .boundary => true
  | .seq p _ => p.isBounded
  | _ => false

theorem bounded_of_spells (bounded : p.isBounded = true) (h : p.Spells prev s rest xs) :
    prev.any isWord ≠ (s ++ rest).head?.any isWord := by
  induction p generalizing prev s rest xs with
  | boundary =>
    obtain ⟨⟨rfl, ne⟩, _⟩ := h
    exact ne
  | seq p q hp _ =>
    obtain ⟨t, u, ys, zs, rfl, rfl, first, _⟩ := h
    rw [List.append_assoc]
    exact hp bounded first
  | literal cs => cases bounded
  | char k => cases bounded
  | run k => cases bounded
  | either p q _ _ => cases bounded
  | many p _ => cases bounded
  | capture p _ => cases bounded

/-- The openers as far as they are in one word. -/
def leads (p : Pattern) : List (List Char) := p.openers.map fun o => o.1.takeWhile isWord

theorem takeWhile_prefix {has : Char → Bool} {s t : List Char} (h : s <+: t) :
    s.takeWhile has <+: t.takeWhile has := by
  obtain ⟨u, rfl⟩ := h
  induction s with
  | nil => exact List.nil_prefix
  | cons c s ih =>
    cases yes : has c with
    | true =>
      rw [List.cons_append, List.takeWhile_cons_of_pos yes, List.takeWhile_cons_of_pos yes]
      exact (List.prefix_cons_inj c).mpr ih
    | false =>
      rw [List.takeWhile_cons_of_neg (by rw [yes]; decide)]
      exact List.nil_prefix

theorem exists_lead (h : p.Spells prev s rest xs) :
    ∃ v ∈ p.leads, v <+: (s ++ rest).takeWhile isWord := by
  obtain ⟨o, mem, begins, _⟩ := exists_opener h
  exact ⟨_, List.mem_map_of_mem mem, takeWhile_prefix (begins.trans (List.prefix_append s rest))⟩

/-- Matches only start where a word does. -/
def StartsWords (p : Pattern) : Prop := p.isBounded = true ∧ [] ∉ p.leads

instance (p : Pattern) : Decidable p.StartsWords :=
  inferInstanceAs (Decidable (p.isBounded = true ∧ [] ∉ p.leads))

/-- No lead of the pattern begins the word. -/
def Avoids (p : Pattern) (w : List Char) : Prop := ∀ v ∈ p.leads, ¬v <+: w

instance (p : Pattern) (w : List Char) : Decidable (p.Avoids w) :=
  inferInstanceAs (Decidable (∀ v ∈ p.leads, ¬v <+: w))

def IsWord (w : List Char) : Prop := w ≠ [] ∧ ∀ c ∈ w, isWord c = true

instance (w : List Char) : Decidable (IsWord w) :=
  decidable_of_iff (w ≠ [] ∧ w.all isWord = true) (and_congr_right fun _ => List.all_eq_true)

theorem stop_of_head {rest : List Char} (h : rest.head?.any isWord = false) :
    ∀ c ∈ rest.head?, isWord c = false := by
  intro c mem
  rw [Option.mem_def.mp mem] at h
  exact h

theorem matchAt_other (starts : p.StartsWords) {s : List Char} (h : s.head?.any isWord = false) :
    p.matchAt prev s = none := by
  refine matchAt_eq_none_iff.mpr ?_
  rintro t rest xs rfl spells
  obtain ⟨v, mem, begins⟩ := exists_lead spells
  rw [(takeWhile_of_head (stop_of_head h)).1, List.prefix_nil] at begins
  exact starts.2 (begins ▸ mem)

theorem matchAt_inside (starts : p.StartsWords) {c d : Char} (hc : isWord c = true)
    (hd : isWord d = true) : p.matchAt (some c) (d :: s) = none := by
  refine matchAt_eq_none_iff.mpr fun t rest xs text spells => ?_
  have edge := bounded_of_spells starts.1 spells
  rw [← text] at edge
  exact edge (hc.trans hd.symm)

theorem matchAt_word {w : List Char} (word : IsWord w) (avoids : p.Avoids w)
    (stop : rest.head?.any isWord = false) : p.matchAt prev (w ++ rest) = none := by
  refine matchAt_eq_none_iff.mpr fun t rest' xs text spells => ?_
  obtain ⟨v, mem, begins⟩ := exists_lead spells
  rw [← text, (takeWhile_append_of_head word.2 (stop_of_head stop)).1] at begins
  exact avoids v mem begins

/-! ## Scanning -/

theorem scan_of_matchAt_none {c : Char} (h : p.matchAt prev (c :: s) = none) :
    p.scan prev 0 (c :: s) = p.scan (some c) 0 s := by
  rw [scan, h]

theorem scan_other (starts : p.StartsWords) {c : Char} (h : isWord c = false) (s : List Char) :
    p.scan prev 0 (c :: s) = p.scan (some c) 0 s :=
  scan_of_matchAt_none (matchAt_other starts h)

theorem scan_others (starts : p.StartsWords) {gap : List Char}
    (other : ∀ c ∈ gap, isWord c = false) (rest : List Char) :
    p.scan prev 0 (gap ++ rest) = p.scan (lastOf prev gap) 0 rest := by
  induction gap generalizing prev with
  | nil => rfl
  | cons c gap ih =>
    rw [List.cons_append, scan_other starts (other c List.mem_cons_self), lastOf_cons]
    exact ih fun d mem => other d (List.mem_cons_of_mem c mem)

theorem scan_inside (starts : p.StartsWords) {c : Char} (hc : isWord c = true) {w : List Char}
    (hw : ∀ d ∈ w, isWord d = true) (rest : List Char) :
    p.scan (some c) 0 (w ++ rest) = p.scan (lastOf (some c) w) 0 rest := by
  induction w generalizing c with
  | nil => rfl
  | cons d w ih =>
    have hd := hw d List.mem_cons_self
    rw [List.cons_append, scan_of_matchAt_none (matchAt_inside starts hc hd), lastOf_cons]
    exact ih hd fun e mem => hw e (List.mem_cons_of_mem d mem)

theorem scan_word_of_none (starts : p.StartsWords) {w : List Char} (word : IsWord w)
    (h : p.matchAt prev (w ++ rest) = none) :
    p.scan prev 0 (w ++ rest) = p.scan (lastOf prev w) 0 rest := by
  obtain ⟨ne, all⟩ := word
  cases w with
  | nil => exact absurd rfl ne
  | cons c w =>
    rw [List.cons_append] at h ⊢
    rw [scan_of_matchAt_none h, lastOf_cons]
    exact scan_inside starts (all c List.mem_cons_self)
      (fun d mem => all d (List.mem_cons_of_mem c mem)) rest

theorem scan_word (starts : p.StartsWords) {w : List Char} (word : IsWord w)
    (avoids : p.Avoids w) (stop : rest.head?.any isWord = false) :
    p.scan prev 0 (w ++ rest) = p.scan (lastOf prev w) 0 rest :=
  scan_word_of_none starts word (matchAt_word word avoids stop)

/-- Words with one separator between any two of them. -/
def joined (sep : Char) : List (List Char) → List Char
  | [] => []
  | [w] => w
  | w :: ws => w ++ sep :: joined sep ws

theorem scan_joined (starts : p.StartsWords) {sep : Char} (other : isWord sep = false)
    {ws : List (List Char)} (words : ∀ w ∈ ws, IsWord w) (avoids : ∀ w ∈ ws, p.Avoids w)
    (stop : rest.head?.any isWord = false) (prev : Option Char) :
    ∃ prev', p.scan prev 0 (joined sep ws ++ rest) = p.scan prev' 0 rest := by
  induction ws generalizing prev with
  | nil => exact ⟨prev, rfl⟩
  | cons w ws ih =>
    have first := words w List.mem_cons_self
    have clear := avoids w List.mem_cons_self
    cases ws with
    | nil => exact ⟨lastOf prev w, scan_word starts first clear stop⟩
    | cons w' ws =>
      obtain ⟨prev', left⟩ := ih (fun v mem => words v (List.mem_cons_of_mem w mem))
        (fun v mem => avoids v (List.mem_cons_of_mem w mem)) (some sep)
      refine ⟨prev', ?_⟩
      rw [joined, List.append_assoc, List.cons_append,
        scan_word starts first clear (show (sep :: _).head?.any isWord = false from other),
        scan_other starts other]
      · exact left
      · exact List.cons_ne_nil w' ws

end Pattern
end TextCatalog
