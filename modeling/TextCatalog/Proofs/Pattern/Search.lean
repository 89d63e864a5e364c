import TextCatalog.Proofs.Pattern.Spells

/-!
# TextCatalog.Proofs.Pattern.Search

Matches in a whole text.

* `spells_of_mem_findAll` — every match found is spelled where it was found.
* `occursIn_iff` — a pattern occurs where some place of the text spells it.
* `IsSilent`, `Spells.silent` — a pattern without captures captures nothing.
-/

namespace TextCatalog
namespace Pattern

open Text

theorem spells_of_mem_scan {p : Pattern} {prev : Option Char} {skip : Nat} {s : List Char}
    {m : Match} (h : m ∈ p.scan prev skip s) :
    ∃ pre post, s = pre ++ (m.text ++ post) ∧
      p.Spells (lastOf prev pre) m.text post m.captures := by
  induction s generalizing prev skip with
  | nil =>
    unfold scan at h
    cases h
  | cons c cs ih =>
    have later : ∀ {skip}, m ∈ p.scan (some c) skip cs →
        ∃ pre post, c :: cs = pre ++ (m.text ++ post) ∧
          p.Spells (lastOf prev pre) m.text post m.captures := by
      intro skip mem
      obtain ⟨pre, post, rfl, spells⟩ := ih mem
      refine ⟨c :: pre, post, rfl, ?_⟩
      rw [lastOf_cons]
      exact spells
    cases skip with
    | succ skip => exact later h
    | zero =>
      rw [scan] at h
      split at h
      · exact later h
      · rename_i first found
        rcases List.mem_cons.mp h with rfl | mem
        · obtain ⟨post, hs, spells⟩ := spells_of_matchAt found
          exact ⟨[], post, hs, spells⟩
        · exact later mem

theorem spells_of_mem_findAll {p : Pattern} {s : List Char} {m : Match} (h : m ∈ p.findAll s) :
    ∃ pre post, s = pre ++ (m.text ++ post) ∧
      p.Spells (lastOf none pre) m.text post m.captures :=
  spells_of_mem_scan h

theorem mem_findAll_of_find? {p : Pattern} {s : List Char} {m : Match} (h : p.find? s = some m) :
    m ∈ p.findAll s :=
  List.mem_of_head? h

theorem mem_findAll_of_findLast? {p : Pattern} {s : List Char} {m : Match}
    (h : p.findLast? s = some m) : m ∈ p.findAll s :=
  List.mem_of_getLast? h

/-! ## Occurrence -/

theorem scan_eq_nil_iff {p : Pattern} {prev : Option Char} {s : List Char} :
    p.scan prev 0 s = [] ↔ ∀ pre t post xs, s = pre ++ (t ++ post) → t ++ post ≠ [] →
      ¬p.Spells (lastOf prev pre) t post xs := by
  induction s generalizing prev with
  | nil =>
    unfold scan
    simp only [true_iff]
    intro pre t post xs hs ne
    exact absurd (List.append_eq_nil_iff.mp hs.symm).2 ne
  | cons c cs ih =>
    rw [scan]
    split
    · rename_i missed
      rw [ih]
      constructor
      · intro later pre t post xs hs ne spells
        cases pre with
        | nil => exact matchAt_eq_none_iff.mp missed t post xs hs spells
        | cons a pre =>
          cases hs
          rw [lastOf_cons] at spells
          exact later pre t post xs rfl ne spells
      · intro all pre t post xs hs ne spells
        refine all (c :: pre) t post xs (by rw [hs]; rfl) ne ?_
        rw [lastOf_cons]
        exact spells
    · rename_i m found
      obtain ⟨post, hs, spells⟩ := spells_of_matchAt found
      simp only [reduceCtorEq, false_iff]
      intro all
      exact all [] m.text post m.captures hs (by rw [← hs]; exact List.cons_ne_nil c cs) spells

theorem occursIn_iff {p : Pattern} {s : List Char} : p.occursIn s = true ↔
    ∃ pre t post xs, s = pre ++ (t ++ post) ∧ t ++ post ≠ [] ∧
      p.Spells (lastOf none pre) t post xs := by
  unfold occursIn find? findAll
  constructor
  · intro found
    refine Classical.byContradiction fun nowhere => ?_
    have none_left : p.scan none 0 s = [] :=
      scan_eq_nil_iff.mpr fun pre t post xs hs ne spells =>
        nowhere ⟨pre, t, post, xs, hs, ne, spells⟩
    rw [none_left] at found
    cases found
  · rintro ⟨pre, t, post, xs, hs, ne, spells⟩
    cases found : p.scan none 0 s with
    | nil => exact absurd spells (scan_eq_nil_iff.mp found pre t post xs hs ne)
    | cons m ms => rfl

/-! ## Captures -/

def IsSilent : Pattern → Bool
  | .seq p q => p.IsSilent && q.IsSilent
  | .either p q => p.IsSilent && q.IsSilent
  | .many p => p.IsSilent
  | .capture _ => false
  | _ => true

theorem Repeats.silent {piece : Option Char → List Char → List Char → List (List Char) → Prop}
    (h : ∀ prev s rest xs, piece prev s rest xs → xs = []) {prev : Option Char}
    {s rest : List Char} {xs : List (List Char)} (spells : Repeats piece prev s rest xs) :
    xs = [] := by
  induction spells with
  | none => rfl
  | more ne first others ih =>
    rw [h _ _ _ _ first, ih]
    rfl

theorem Spells.silent {p : Pattern} (h : p.IsSilent = true) {prev : Option Char}
    {s rest : List Char} {xs : List (List Char)} (spells : p.Spells prev s rest xs) : xs = [] := by
  induction p generalizing prev s rest xs with
  | literal cs => exact spells.2
  | char k => exact spells.2
  | run k => exact spells.2
  | boundary => exact spells.2
  | seq p q hp hq =>
    obtain ⟨left, right⟩ := Bool.and_eq_true_iff.mp h
    obtain ⟨t, u, ys, zs, rfl, rfl, first, second⟩ := spells
    rw [hp left first, hq right second]
    rfl
  | either p q hp hq =>
    obtain ⟨left, right⟩ := Bool.and_eq_true_iff.mp h
    cases spells with
    | inl spells => exact hp left spells
    | inr spells => exact hq right spells
  | many p hp => exact Repeats.silent (fun prev s rest xs piece => hp h piece) spells
  | capture p hp => cases h

end Pattern
end TextCatalog
