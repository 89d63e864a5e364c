import Mathlib.Data.List.Forall2

/-!
# TextCatalog.Proofs.Traversal

Steps that may fail, one after the other and along a list.

* `bind_eq_ok`, `mapError_eq_ok_iff` — the second step follows when the first one
  succeeds, and other words for an error change no success.
* `mapM_eq_ok_iff`, `exists_mapM_eq_ok_iff` — all goes well when every step does.
* `mapM_eq_error_iff` — otherwise the first failure is the answer, whatever comes after it.
* `checkOf_bind` — steps of different kinds fail as the list of their checks does.
-/

namespace TextCatalog

variable {ε α β γ : Type} {f : α → Except ε β} {xs : List α} {ys : List β} {e : ε}

theorem bind_eq_ok {x : Except ε α} {next : α → Except ε β} {y : β}
    (h : (x >>= next) = .ok y) : ∃ a, x = .ok a ∧ next a = .ok y := by
  cases x with
  | error e => cases h
  | ok a => exact ⟨a, rfl, h⟩

theorem mapError_eq_ok_iff {x : Except ε α} {g : ε → γ} {y : α} :
    x.mapError g = .ok y ↔ x = .ok y := by
  cases x <;> simp [Except.mapError]

theorem mapError_eq_error_iff {x : Except ε α} {g : ε → γ} {e : γ} :
    x.mapError g = .error e ↔ ∃ e', x = .error e' ∧ e = g e' := by
  cases x <;> simp [Except.mapError, eq_comm]

theorem mapM_cons_eq (x : α) (xs : List α) : (x :: xs).mapM f =
    match f x with
    | .error e => .error e
    | .ok y => (xs.mapM f).map (y :: ·) := by
  rw [List.mapM_cons]
  cases f x with
  | error e => rfl
  | ok y => cases xs.mapM f <;> rfl

theorem mapM_eq_ok_iff :
    xs.mapM f = .ok ys ↔ List.Forall₂ (fun x y => f x = .ok y) xs ys := by
  induction xs generalizing ys with
  | nil => cases ys <;> simp [pure, Except.pure]
  | cons x xs ih =>
    rw [mapM_cons_eq, List.forall₂_cons_left_iff]
    cases first : f x with
    | error e => simp
    | ok y =>
      cases rest : xs.mapM f with
      | error e => simp [← ih, rest, Except.map]
      | ok zs => simp [← ih, rest, Except.map, eq_comm]

theorem exists_mapM_eq_ok_iff :
    (∃ ys, xs.mapM f = .ok ys) ↔ ∀ x ∈ xs, ∃ y, f x = .ok y := by
  simp only [mapM_eq_ok_iff]
  induction xs with
  | nil => simp
  | cons x xs ih => simp [List.forall₂_cons_left_iff, ← ih]

theorem mapM_eq_error_iff : xs.mapM f = .error e ↔
    ∃ before x after, xs = before ++ x :: after ∧ (∀ b ∈ before, ∃ y, f b = .ok y) ∧
      f x = .error e := by
  induction xs with
  | nil => simp [pure, Except.pure]
  | cons x xs ih =>
    rw [mapM_cons_eq]
    constructor
    · intro failed
      cases first : f x with
      | error e' =>
        rw [first] at failed
        cases failed
        exact ⟨[], x, xs, rfl, nofun, first⟩
      | ok y =>
        rw [first] at failed
        cases rest : xs.mapM f with
        | ok zs =>
          rw [rest] at failed
          cases failed
        | error e' =>
          rw [rest] at failed
          cases failed
          obtain ⟨before, z, after, rfl, fine, later⟩ := ih.mp rest
          refine ⟨x :: before, z, after, rfl, ?_, later⟩
          exact List.forall_mem_cons.mpr ⟨⟨y, first⟩, fine⟩
    · rintro ⟨before, z, after, split, fine, failed⟩
      cases before with
      | nil =>
        cases split
        rw [failed]
      | cons b before =>
        cases split
        obtain ⟨⟨y, first⟩, fine⟩ := List.forall_mem_cons.mp fine
        rw [first, ih.mpr ⟨before, z, after, rfl, fine, failed⟩]
        rfl

/-! ## Checks -/

/-- Whether a step fails and how, without what it gives. -/
def checkOf (x : Except ε α) : Except ε Unit := x.map fun _ => ()

theorem checkOf_eq_error_iff {x : Except ε α} : checkOf x = .error e ↔ x = .error e := by
  cases x <;> simp [checkOf, Except.map]

theorem checkOf_eq_ok_iff {x : Except ε α} : checkOf x = .ok () ↔ ∃ a, x = .ok a := by
  cases x <;> simp [checkOf, Except.map]

/-- A chain of steps fails as the list of their checks does. -/
theorem checkOf_bind {x : Except ε α} {next : α → Except ε β} {check : γ → Except ε Unit} {c : γ}
    {cs : List γ} (first : checkOf x = check c)
    (later : ∀ a, checkOf (next a) = checkOf (cs.mapM check)) :
    checkOf (x >>= next) = checkOf ((c :: cs).mapM check) := by
  rw [mapM_cons_eq, ← first]
  cases x with
  | error e => rfl
  | ok a =>
    refine (later a).trans ?_
    cases cs.mapM check <;> simp [checkOf, Except.map]

end TextCatalog
