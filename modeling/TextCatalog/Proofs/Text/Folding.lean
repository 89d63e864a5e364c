import TextCatalog.Proofs.Text.Classes
import TextCatalog.Proofs.Text.Context
import TextCatalog.Text.Digits

/-!
# TextCatalog.Proofs.Text.Folding

What lower case takes no notice of, and what it leaves as it is.

* `isKept_of_mem_lowerAfter` — the letters of a text in lower case stay as they are.
* `lowercase_toLower` — the case of the letters of ASCII is of no account.
* `lowercase_between`, `trim_blanks` — blanks at the ends stay in lower case, and are all trimmed.
* `leadingDigits_lowercase` — the digits that a text begins with stay, and none come to them.
-/

namespace TextCatalog
namespace Text

variable {c : Char} {s a b gap : List Char} {runs : List CaseRun} {n : Nat}

/-! ## Twice -/

theorem lowerIn_cases (runs : List CaseRun) (n : Nat) : lowerIn runs n = n ∨
    ∃ r ∈ runs, r.first ≤ n ∧ r.applies n = true ∧ lowerIn runs n = r.image + (n - r.first) := by
  induction runs with
  | nil => exact .inl rfl
  | cons r runs ih =>
    rw [lowerIn]
    split
    · exact .inl rfl
    · rename_i start
      split
      · rename_i applies
        exact .inr ⟨r, List.mem_cons_self, Nat.le_of_not_lt start, applies, rfl⟩
      · rcases ih with same | ⟨q, mem, found⟩
        · exact .inl same
        · exact .inr ⟨q, List.mem_cons_of_mem r mem, found⟩

theorem lowerIn_of_missed (h : ∀ q ∈ runs, n < q.first ∨ q.applies n = false) :
    lowerIn runs n = n := by
  rcases lowerIn_cases runs n with same | ⟨q, mem, start, applies, _⟩
  · exact same
  · rcases h q mem with below | missed
    · exact absurd start (Nat.not_le.mpr below)
    · rw [missed] at applies
      cases applies

/--
The small letters of one run are no capitals of another: they lie apart, or they stand between the
capitals of a run that takes every other place.
-/
def CaseRun.clears (r q : CaseRun) : Bool :=
  Nat.blt (r.image + (r.last - r.first)) q.first || Nat.blt q.last r.image ||
    (Nat.ble r.last r.first || Nat.beq (r.step % 2) 0) && Nat.beq (q.step % 2) 0 &&
      Nat.beq ((r.image + q.first) % 2) 1

theorem CaseRun.clears_iff {r q : CaseRun} : r.clears q = true ↔
    r.image + (r.last - r.first) < q.first ∨ q.last < r.image ∨
      (r.last ≤ r.first ∨ 2 ∣ r.step) ∧ 2 ∣ q.step ∧ (r.image + q.first) % 2 = 1 := by
  simp [clears, Nat.blt_eq, Nat.dvd_iff_mod_eq_zero, or_assoc, and_assoc]

theorem CaseRun.applies_iff {r : CaseRun} :
    r.applies n = true ↔ n ≤ r.last ∧ r.step ∣ n - r.first := by
  rw [CaseRun.applies, Bool.and_eq_true, decide_eq_true_iff, beq_iff_eq, Nat.dvd_iff_mod_eq_zero]

theorem CaseRun.applies_of_clears {r q : CaseRun} (h : r.clears q = true) {i : Nat}
    (applies : r.applies (r.first + i) = true) :
    r.image + i < q.first ∨ q.applies (r.image + i) = false := by
  obtain ⟨within, step⟩ := applies_iff.mp applies
  rw [Nat.add_sub_cancel_left] at step
  rcases Nat.lt_or_ge (r.image + i) q.first with below | start
  · exact .inl below
  · refine .inr (Bool.eq_false_iff.mpr fun both => ?_)
    obtain ⟨within', step'⟩ := applies_iff.mp both
    rcases clears_iff.mp h with below | above | ⟨even, even', odd⟩
    · omega
    · omega
    · have place : 2 ∣ i := by
        rcases even with alone | even
        · rw [show i = 0 by omega]
          exact Nat.dvd_zero 2
        · exact Nat.dvd_trans even step
      have place' := Nat.dvd_trans even' step'
      omega

theorem point_of_valid (valid : n.isValidChar) : (Char.ofNat n).toNat = n := by
  rw [Char.ofNat, dif_pos valid]
  exact UInt32.toNat_ofNatLT

/-- A character that is no capital, by its code point. -/
theorem isKept_ofNat (valid : n.isValidChar) (noDotted : n ≠ 0x130)
    (same : lowerIn lowerRuns n = n) : IsKept (Char.ofNat n) := by
  have point := point_of_valid valid
  refine ⟨?_, ?_⟩
  · intro sigma
    have capital : n = 0x3a3 := by
      rw [← point, sigma]
      rfl
    rw [capital] at same
    exact absurd same (by decide)
  · have other : Char.ofNat n ≠ '\u0130' := by
      intro dotted
      exact noDotted (by rw [← point, dotted]; rfl)
    rw [lowerChar, if_neg other, point, same]

/-- No small letter of the table is a capital in another place of it. -/
theorem lowerRuns_clear : lowerRuns.all (fun r => lowerRuns.all r.clears) = true := by
  decide +kernel

theorem lowerRuns_images : ∀ r ∈ lowerRuns,
    (r.image + (r.last - r.first) < 0xd800 ∨
      0xdfff < r.image ∧ r.image + (r.last - r.first) < 0x110000) ∧
    (r.image + (r.last - r.first) < 0x130 ∨ 0x130 < r.image) := by
  decide +kernel

theorem isKept_image {r : CaseRun} (run : r ∈ lowerRuns) {i : Nat}
    (applies : r.applies (r.first + i) = true) : IsKept (Char.ofNat (r.image + i)) := by
  have within := (CaseRun.applies_iff.mp applies).1
  obtain ⟨range, noDotted⟩ := lowerRuns_images r run
  have valid : (r.image + i).isValidChar := by
    show _ < 0xd800 ∨ 0xdfff < _ ∧ _ < 0x110000
    omega
  refine isKept_ofNat valid (by omega) (lowerIn_of_missed fun q mem => ?_)
  exact CaseRun.applies_of_clears
    (List.all_eq_true.mp (List.all_eq_true.mp lowerRuns_clear r run) q mem) applies

theorem isKept_of_mem_lowerChar (other : c ≠ 'Σ') : ∀ d ∈ lowerChar c, IsKept d := by
  intro d mem
  rw [lowerChar] at mem
  split at mem
  · rcases List.mem_cons.mp mem with rfl | mem
    · decide
    · rw [List.mem_singleton.mp mem]
      decide
  · rename_i noDotted
    obtain rfl := List.mem_singleton.mp mem
    rcases lowerIn_cases lowerRuns c.toNat with same | ⟨r, run, start, applies, image⟩
    · have kept : lowerChar c = [c] := by rw [lowerChar, if_neg noDotted, same, Char.ofNat_toNat]
      rw [same, Char.ofNat_toNat]
      exact ⟨other, kept⟩
    · obtain ⟨i, point⟩ := Nat.exists_eq_add_of_le start
      rw [point, Nat.add_sub_cancel_left] at image
      rw [point] at applies
      rw [point, image]
      exact isKept_image run applies

theorem isKept_lowerSigma (before after : List Char) : IsKept (lowerSigma before after) := by
  unfold lowerSigma
  split <;> decide

theorem isKept_of_mem_lowerAfter (before s : List Char) : ∀ d ∈ lowerAfter before s, IsKept d := by
  induction s generalizing before with
  | nil =>
    intro d mem
    cases mem
  | cons c s ih =>
    intro d mem
    rw [lowerAfter] at mem
    rcases List.mem_append.mp mem with first | later
    · split at first
      · obtain rfl := List.mem_singleton.mp first
        exact isKept_lowerSigma before s
      · rename_i other
        exact isKept_of_mem_lowerChar other d first
    · exact ih (c :: before) d later

/-! ## The case of letters of ASCII -/

theorem toLower_of_beyond (h : ¬c.toNat < 128) : c.toLower = c := by
  have beyond : ¬c.val.toNat < 128 := h
  refine dif_neg fun within => ?_
  have : c.val.toNat ≤ 90 := within.2
  omega

theorem toLower_induction {P : Char → Char → Prop} (same : ∀ c, P c c)
    (all : ∀ n < 128, P (Char.ofNat n).toLower (Char.ofNat n)) (c : Char) : P c.toLower c := by
  by_cases low : c.toNat < 128
  · exact forall_ascii (P := fun c => P c.toLower c) all low
  · rw [toLower_of_beyond low]
    exact same c

theorem lowerChar_toLower (c : Char) : lowerChar c.toLower = lowerChar c :=
  toLower_induction (P := fun d c => lowerChar d = lowerChar c) (fun _ => rfl) (by decide) c

theorem isCased_toLower (c : Char) : isCased c.toLower = isCased c :=
  toLower_induction (P := fun d c => isCased d = isCased c) (fun _ => rfl) (by decide) c

theorem isCaseIgnorable_toLower (c : Char) : isCaseIgnorable c.toLower = isCaseIgnorable c :=
  toLower_induction (P := fun d c => isCaseIgnorable d = isCaseIgnorable c) (fun _ => rfl)
    (by decide) c

theorem toLower_eq_sigma_iff (c : Char) : c.toLower = 'Σ' ↔ c = 'Σ' :=
  toLower_induction (P := fun d c => d = 'Σ' ↔ c = 'Σ') (fun _ => Iff.rfl) (by decide) c

theorem meetsCased_toLower (s : List Char) : meetsCased (s.map Char.toLower) = meetsCased s := by
  have same : isCaseIgnorable ∘ Char.toLower = isCaseIgnorable := funext isCaseIgnorable_toLower
  unfold meetsCased
  rw [List.dropWhile_map, same]
  cases s.dropWhile isCaseIgnorable with
  | nil => rfl
  | cons c s => exact isCased_toLower c

theorem lowerAfter_toLower (before s : List Char) :
    lowerAfter (before.map Char.toLower) (s.map Char.toLower) = lowerAfter before s := by
  induction s generalizing before with
  | nil => rfl
  | cons c s ih =>
    have later := ih (c :: before)
    rw [List.map_cons] at later
    simp only [List.map_cons, lowerAfter, later, lowerSigma, meetsCased_toLower,
      toLower_eq_sigma_iff, lowerChar_toLower]

theorem lowercase_toLower (s : List Char) : lowercase (s.map Char.toLower) = lowercase s :=
  lowerAfter_toLower [] s

/-! ## Blanks at the ends -/

theorem isBreak_of_isBlank (h : isBlank c = true) : IsBreak c :=
  Spans.forall_of_covers
    (P := fun n => caseIgnorableSpans.covers n = false ∧ casedSpans.covers n = false) h
    (by decide +kernel)

theorem isKept_of_isBlank (h : isBlank c = true) : IsKept c := by
  obtain ⟨valid, noDotted, same⟩ : c.toNat.isValidChar ∧ c.toNat ≠ 0x130 ∧
      lowerIn lowerRuns c.toNat = c.toNat :=
    Spans.forall_of_covers (P := fun n => n.isValidChar ∧ n ≠ 0x130 ∧ lowerIn lowerRuns n = n) h
      (by decide +kernel)
  have kept := isKept_ofNat valid noDotted same
  rwa [Char.ofNat_toNat] at kept

theorem meetsCased_of_breaks (h : ∀ c ∈ gap, IsBreak c) (s : List Char) :
    meetsCased (s ++ gap) = meetsCased s := by
  cases gap with
  | nil => rw [List.append_nil]
  | cons x gap => exact meetsCased_of_break (h x List.mem_cons_self) s gap

/-- Of what stands before a text only whether it ends in a cased character is of account. -/
theorem lowerAfter_congr (h : ∀ p, meetsCased (p ++ a) = meetsCased (p ++ b)) (p s : List Char) :
    lowerAfter (p ++ a) s = lowerAfter (p ++ b) s := by
  induction s generalizing p with
  | nil => rfl
  | cons c s ih =>
    have later := ih (c :: p)
    rw [List.cons_append, List.cons_append] at later
    rw [lowerAfter, lowerAfter, later, lowerSigma, lowerSigma, h]

theorem lowerAfter_of_breaks (h : ∀ c ∈ gap, IsBreak c) (s : List Char) :
    lowerAfter gap s = lowercase s :=
  lowerAfter_congr (b := []) (fun p => by rw [meetsCased_of_breaks h, List.append_nil]) [] s

theorem lowercase_append_blanks (blank : ∀ c ∈ gap, isBlank c = true) (s : List Char) :
    lowercase (s ++ gap) = lowercase s ++ gap := by
  cases gap with
  | nil => rw [List.append_nil, List.append_nil]
  | cons x gap =>
    have kept :=
      lowerAfter_of_kept (fun c mem => isKept_of_isBlank (blank c mem)) (s.reverse ++ []) []
    rw [lowerAfter, List.append_nil (x :: gap)] at kept
    rw [lowercase, lowerAfter_of_break (isBreak_of_isBlank (blank x List.mem_cons_self)), kept]
    rfl

theorem lowercase_between (blank : ∀ c ∈ a, isBlank c = true) (blank' : ∀ c ∈ b, isBlank c = true)
    (s : List Char) : lowercase (a ++ s ++ b) = a ++ lowercase s ++ b := by
  have breaks : ∀ c ∈ a.reverse, IsBreak c := fun c mem =>
    isBreak_of_isBlank (blank c (List.mem_reverse.mp mem))
  rw [lowercase_append_blanks blank', lowercase,
    lowerAfter_of_kept fun c mem => isKept_of_isBlank (blank c mem), List.append_nil,
    lowerAfter_of_breaks breaks]

theorem trim_first (s : List Char) : ∀ c ∈ (trim s).head?, isBlank c = false := by
  intro c first
  obtain ⟨gap, split, _⟩ := trimEnd_append_gap (trimStart s)
  refine head?_dropWhile_blank s c ?_
  rw [← trimStart, split]
  exact List.mem_head?_append_of_mem_head? first

theorem trim_trim (s : List Char) : trim (trim s) = trim s :=
  trim_of_ends (trim_first s) (trim_last s)

theorem trim_blanks (blank : ∀ c ∈ a, isBlank c = true) (blank' : ∀ c ∈ b, isBlank c = true)
    (s : List Char) : trim (a ++ s ++ b) = trim s := by
  obtain ⟨before, after, split, first, last⟩ := trim_split s
  by_cases empty : trim s = []
  · rw [empty, List.append_nil] at split
    rw [empty]
    refine trim_of_blanks fun c mem => ?_
    rw [split] at mem
    simp only [List.mem_append] at mem
    rcases mem with (h | h | h) | h
    · exact blank c h
    · exact first c h
    · exact last c h
    · exact blank' c h
  · have whole : a ++ s ++ b = (a ++ before) ++ trim s ++ (after ++ b) := by
      conv_lhs => rw [split]
      simp only [List.append_assoc]
    rw [whole]
    exact trim_between empty (trim_first s) (trim_last s)
      (List.forall_mem_append.mpr ⟨blank, first⟩) (List.forall_mem_append.mpr ⟨last, blank'⟩)

/-! ## Digits at the front -/

theorem isDigit_of_point {d : Char} (h : ¬(48 ≤ d.toNat ∧ d.toNat ≤ 57)) : d.isDigit = false := by
  refine Bool.eq_false_iff.mpr fun digit => h ?_
  obtain ⟨low, high⟩ := Bool.and_eq_true_iff.mp digit
  exact ⟨of_decide_eq_true low, of_decide_eq_true high⟩

theorem lowerChar_head (h : c.isDigit = false) :
    ∀ d ∈ (lowerChar c).head?, d.isDigit = false := by
  have images : ∀ r ∈ lowerRuns, 58 ≤ r.image := by decide +kernel
  intro d first
  rw [lowerChar] at first
  split at first
  · obtain rfl := Option.some.inj first
    rfl
  · obtain rfl := Option.some.inj first
    rcases lowerIn_cases lowerRuns c.toNat with same | ⟨r, run, _, _, image⟩
    · rwa [same, Char.ofNat_toNat]
    · have above := images r run
      rw [image]
      by_cases valid : (r.image + (c.toNat - r.first)).isValidChar
      · refine isDigit_of_point ?_
        rw [point_of_valid valid]
        omega
      · rw [Char.ofNat, dif_neg valid]
        rfl

theorem lowerChar_ne_nil (c : Char) : lowerChar c ≠ [] := by
  unfold lowerChar
  split <;> exact List.cons_ne_nil _ _

theorem takeWhile_of_head {p : Char → Bool} {t : List Char} (ne : t ≠ [])
    (h : ∀ d ∈ t.head?, p d = false) (rest : List Char) : (t ++ rest).takeWhile p = [] := by
  cases t with
  | nil => exact absurd rfl ne
  | cons d t => exact List.takeWhile_cons_of_neg (Bool.eq_false_iff.mp (h d rfl))

theorem leadingDigits_lowerAfter (before s : List Char) :
    leadingDigits (lowerAfter before s) = leadingDigits s := by
  induction s generalizing before with
  | nil => rfl
  | cons c s ih =>
    rw [lowerAfter, leadingDigits, leadingDigits]
    cases digit : c.isDigit with
    | true =>
      obtain ⟨other, same⟩ := isKept_of_lowered (isLowered_of_digit digit)
      rw [if_neg other, same, List.takeWhile_cons_of_pos digit, List.singleton_append,
        List.takeWhile_cons_of_pos digit]
      exact congrArg (c :: ·) (ih (c :: before))
    | false =>
      rw [List.takeWhile_cons_of_neg (Bool.eq_false_iff.mp digit)]
      split
      · refine takeWhile_of_head (List.cons_ne_nil _ _) (fun d first => ?_) _
        obtain rfl := Option.some.inj first
        unfold lowerSigma
        split <;> rfl
      · exact takeWhile_of_head (lowerChar_ne_nil c) (lowerChar_head digit) _

theorem leadingDigits_lowercase (s : List Char) : leadingDigits (lowercase s) = leadingDigits s :=
  leadingDigits_lowerAfter [] s

end Text
end TextCatalog
