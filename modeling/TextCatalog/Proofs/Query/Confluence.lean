import TextCatalog.Proofs.Query.ClauseLength
import TextCatalog.Proofs.Query.Fields

/-!
# TextCatalog.Proofs.Query.Confluence

The stages may be taken in any order, and as often as one likes.

* `readBounds_cases` — what the families of length phrases do to any bounds: refuse them, replace
  them, or raise and lower them.
* `readBy` — the filter that a set of stages reads from a text.
* `apply_readBy` — one stage more adds its field, or refuses the text, whatever was read before.
* `run_confluent` — any list of all stages gives the filter that they give in their order.
-/

namespace TextCatalog
namespace Query

open Pattern

variable {s : List Char} {b : Bounds} {f : Filter}

/-! ## Lengths -/

theorem max?_absorb {l ns : List Nat} (h : ∀ n ∈ ns, n ∈ l) :
    (l.max?.toList ++ ns).max? = l.max? := by
  cases greatest : l.max? with
  | none =>
    have none_left : l = [] := List.max?_eq_none_iff.mp greatest
    subst none_left
    cases ns with
    | nil => rfl
    | cons n ns => exact absurd (h n List.mem_cons_self) List.not_mem_nil
  | some k =>
    have above : ∀ n ∈ l, n ≤ k := (List.max?_eq_some_iff.mp greatest).2
    refine List.max?_eq_some_iff.mpr ⟨List.mem_cons_self, fun n mem => ?_⟩
    rcases List.mem_cons.mp mem with rfl | mem
    · exact Nat.le_refl n
    · exact above n (h n mem)

theorem min?_absorb {l ns : List Nat} (h : ∀ n ∈ ns, n ∈ l) :
    (l.min?.toList ++ ns).min? = l.min? := by
  cases least : l.min? with
  | none =>
    have none_left : l = [] := List.min?_eq_none_iff.mp least
    subst none_left
    cases ns with
    | nil => rfl
    | cons n ns => exact absurd (h n List.mem_cons_self) List.not_mem_nil
  | some k =>
    have below : ∀ n ∈ l, k ≤ n := (List.min?_eq_some_iff.mp least).2
    refine List.min?_eq_some_iff.mpr ⟨List.mem_cons_self, fun n mem => ?_⟩
    rcases List.mem_cons.mp mem with rfl | mem
    · exact Nat.le_refl n
    · exact below n (h n mem)

/-- Bounds that are raised and lowered already. -/
theorem foldl_again (downs ups : List Nat) (b : Bounds) :
    downs.foldl Bounds.lower (ups.foldl Bounds.raise
        (downs.foldl Bounds.lower (ups.foldl Bounds.raise b))) =
      downs.foldl Bounds.lower (ups.foldl Bounds.raise b) := by
  have up : ∀ n ∈ ups, n ∈ b.least.toList ++ ups := fun n mem => List.mem_append_right _ mem
  have down : ∀ n ∈ downs, n ∈ b.most.toList ++ downs := fun n mem => List.mem_append_right _ mem
  rw [foldl_raise, foldl_lower, foldl_raise, foldl_lower]
  simp only [max?_absorb up, min?_absorb down]

/-- What the families do, once the phrases are found. -/
theorem readBounds_eq (s : List Char) (b : Bounds) : readBounds s b =
    if 0 ∈ numbersOf shorterPhrase s then .error .shorterThanZero
    else Except.map
      (fun b => (numbersOf atMostPhrase s).foldl Bounds.lower
        ((numbersOf atLeastPhrase s).foldl Bounds.raise b))
      ((betweenPhrase.findAll s).foldlM (fun _ m => rangeOf m)
        (((numbersOf shorterPhrase s).map (· - 1)).foldl Bounds.lower
          (((numbersOf longerPhrase s).map Bounds.above).foldl Bounds.raise b))) := by
  simp only [readBounds, foldl_longerThan, foldlM_shorterThan]
  split
  · rfl
  · simp only [bind, Except.bind]
    cases (betweenPhrase.findAll s).foldlM (fun _ m => rangeOf m)
      (((numbersOf shorterPhrase s).map (· - 1)).foldl Bounds.lower
          (((numbersOf longerPhrase s).map Bounds.above).foldl Bounds.raise b)) <;> rfl

/-- A text refuses all bounds, replaces them, or raises and lowers them. -/
theorem readBounds_cases (s : List Char) :
    (∃ e, ∀ b, readBounds s b = .error e) ∨ (∃ b', ∀ b, readBounds s b = .ok b') ∨
      ∃ downs ups : List Nat,
        ∀ b, readBounds s b = .ok (downs.foldl Bounds.lower (ups.foldl Bounds.raise b)) := by
  by_cases zero : 0 ∈ numbersOf shorterPhrase s
  · exact .inl ⟨_, fun b => by rw [readBounds_eq, if_pos zero]⟩
  cases ranges : betweenPhrase.findAll s with
  | nil =>
    refine .inr (.inr ⟨(numbersOf shorterPhrase s).map (· - 1) ++ numbersOf atMostPhrase s,
      (numbersOf longerPhrase s).map Bounds.above ++ numbersOf atLeastPhrase s, fun b => ?_⟩)
    rw [readBounds_eq, if_neg zero, ranges, List.foldl_append, List.foldl_append,
      foldl_lower_raise ((numbersOf shorterPhrase s).map (· - 1)) (numbersOf atLeastPhrase s)]
    rfl
  | cons m ms =>
    -- The first range already drops the bounds from before.
    cases read : rangeOf m >>= fun b => ms.foldlM (fun _ m => rangeOf m) b with
    | error e =>
      refine .inl ⟨e, fun b => ?_⟩
      rw [readBounds_eq, if_neg zero, ranges, List.foldlM_cons, read]
      rfl
    | ok b' =>
      refine .inr (.inl ⟨(numbersOf atMostPhrase s).foldl Bounds.lower
        ((numbersOf atLeastPhrase s).foldl Bounds.raise b'), fun b => ?_⟩)
      rw [readBounds_eq, if_neg zero, ranges, List.foldlM_cons, read]
      rfl

/-- Bounds that a text has set stay as they are when it is read once more. -/
theorem readBounds_again (h : boundsOf s = .ok b) : readBounds s b = .ok b := by
  rw [boundsOf] at h
  rcases readBounds_cases s with ⟨e, refused⟩ | ⟨b', replaced⟩ | ⟨downs, ups, folded⟩
  · rw [refused] at h
    cases h
  · rw [replaced] at h ⊢
    exact h
  · rw [folded] at h ⊢
    cases h
    exact congrArg Except.ok (foldl_again downs ups ⟨none, none⟩)

/-! ## The other readings, once more -/

theorem readPalindrome_again (h : f.isPalindrome = flagOf s) : readPalindrome s f = f := by
  have unset : Filter.empty.isPalindrome = none := rfl
  rw [flagOf, readPalindrome] at h
  rw [readPalindrome]
  split
  · rename_i denied
    rw [if_pos denied] at h
    exact congrArg (fun b => { f with isPalindrome := b }) h.symm
  · rename_i notDenied
    rw [if_neg notDenied] at h
    split
    · rename_i asked
      rw [if_pos ⟨unset, asked.2⟩, asked.1] at h
      cases h
    · rfl

end Query

namespace Stage

open Query

variable {s : List Char} {done stages : List Stage}

/-! ## Any stages -/

/-- Why a stage refuses a text, if it does. -/
def refusal? (s : List Char) (stage : Stage) : Option QueryError :=
  match stage.apply s Filter.empty with
  | .error e => some e
  | .ok _ => none

/-- What a reading has found, once its stage is among those that are done. -/
def after {α : Type} (done : List Stage) (stage : Stage) (found : Option α) : Option α :=
  if stage ∈ done then found else none

/-- The filter that is read from a text by stages in any order. -/
def readBy (done : List Stage) (s : List Char) : Filter where
  isPalindrome := after done palindrome (flagOf s)
  minLength := after done length ((boundsOf s).toOption.bind (·.least))
  maxLength := after done length ((boundsOf s).toOption.bind (·.most))
  wordCount := after done wordCount (countOf s)
  containsCharacter :=
    (after done ordinalLetter (positionedOf s).toOption.join).or
      (after done namedLetter (namedOf s))

theorem readBy_nil (s : List Char) : readBy [] s = Filter.empty := rfl

theorem readBy_congr {done' : List Stage} (same : ∀ stage, stage ∈ done ↔ stage ∈ done')
    (s : List Char) : readBy done s = readBy done' s := by
  simp only [readBy, after, same]

theorem after_cons_self {α : Type} (done : List Stage) (stage : Stage) (found : Option α) :
    after (stage :: done) stage found = found :=
  if_pos List.mem_cons_self

theorem after_cons_of_ne {α : Type} {stage other : Stage} (h : stage ≠ other) (found : Option α) :
    after (other :: done) stage found = after done stage found := by
  simp only [after, List.mem_cons, h, false_or]

theorem or_after {α : Type} (done : List Stage) (stage : Stage) (found : Option α) :
    found.or (after done stage found) = found := by
  unfold after
  split
  · exact Option.or_self
  · exact Option.or_none

theorem after_or {α : Type} (done : List Stage) (stage : Stage) (found : Option α) :
    (after done stage found).or found = found := by
  unfold after
  split
  · exact Option.or_self
  · exact Option.none_or

theorem refusal?_length (s : List Char) : refusal? s length =
    match boundsOf s with
    | .error e => some e
    | .ok _ => none := by
  have read : apply length s Filter.empty = readLength s Filter.empty := rfl
  rw [refusal?, read, readLength_of_unset rfl rfl]
  cases boundsOf s <;> rfl

theorem refusal?_ordinalLetter (s : List Char) : refusal? s ordinalLetter =
    match positionedOf s with
    | .error e => some e
    | .ok _ => none := by
  have read : apply ordinalLetter s Filter.empty = readOrdinal s Filter.empty := rfl
  rw [refusal?, read, readOrdinal_eq]
  cases positionedOf s <;> rfl

theorem readPalindrome_readBy (done : List Stage) (s : List Char) :
    readPalindrome s (readBy done s) = readBy (palindrome :: done) s := by
  have added : readBy (palindrome :: done) s = { readBy done s with isPalindrome := flagOf s } := by
    simp (disch := decide) only [readBy, after_cons_self, after_cons_of_ne]
  by_cases again : palindrome ∈ done
  · have set : (readBy done s).isPalindrome = flagOf s := if_pos again
    rw [readPalindrome_again set, added]
    exact congrArg (fun b => { readBy done s with isPalindrome := b }) set
  · have unset : (readBy done s).isPalindrome = none := if_neg again
    rw [readPalindrome_of_unset unset, added]

theorem readLength_readBy {b : Bounds} (bounds : boundsOf s = .ok b) (done : List Stage) :
    readLength s (readBy done s) = .ok (readBy (length :: done) s) := by
  have added : readBy (length :: done) s =
      { readBy done s with minLength := b.least, maxLength := b.most } := by
    simp (disch := decide) only [readBy, after_cons_self, after_cons_of_ne, bounds]
    rfl
  by_cases again : length ∈ done
  · have low : (readBy done s).minLength = b.least := by
      simp only [readBy, after, if_pos again, bounds]
      rfl
    have high : (readBy done s).maxLength = b.most := by
      simp only [readBy, after, if_pos again, bounds]
      rfl
    rw [readLength, low, high, readBounds_again bounds, added]
    rfl
  · have low : (readBy done s).minLength = none := if_neg again
    have high : (readBy done s).maxLength = none := if_neg again
    rw [readLength_of_unset low high, bounds, added]
    rfl

/-- Where the lengths are refused, none has been read. -/
theorem readLength_readBy_refused {e : QueryError} (refused : boundsOf s = .error e)
    (done : List Stage) : readLength s (readBy done s) = .error e := by
  have low : (readBy done s).minLength = none := by
    simp only [readBy, after, refused]
    exact ite_self none
  have high : (readBy done s).maxLength = none := by
    simp only [readBy, after, refused]
    exact ite_self none
  rw [readLength_of_unset low high, refused]
  rfl

theorem readWordCount_readBy (done : List Stage) (s : List Char) :
    readWordCount s (readBy done s) = readBy (wordCount :: done) s := by
  rw [readWordCount_eq]
  simp (disch := decide) only [readBy, after_cons_self, after_cons_of_ne, or_after]

theorem readOrdinal_readBy {c : Option Char} (position : positionedOf s = .ok c)
    (done : List Stage) :
    readOrdinal s (readBy done s) = .ok (readBy (ordinalLetter :: done) s) := by
  have found : (Except.ok c : Except QueryError (Option Char)).toOption.join = c := rfl
  rw [readOrdinal_eq, position]
  simp (disch := decide) only [readBy, after_cons_self, after_cons_of_ne, position, found,
    Except.map, ← Option.or_assoc, or_after]

theorem readLetter_readBy (done : List Stage) (s : List Char) :
    readLetter s (readBy done s) = readBy (namedLetter :: done) s := by
  rw [readLetter_eq]
  simp (disch := decide) only [readBy, after_cons_self, after_cons_of_ne, Option.or_assoc, after_or]

/-- No field is read from an exclusion. -/
theorem readBy_exclusion (done : List Stage) (s : List Char) :
    readBy (exclusion :: done) s = readBy done s := by
  simp (disch := decide) only [readBy, after_cons_of_ne]

/-- One stage more refuses the text or adds its field, whatever has been read before. -/
theorem apply_readBy (stage : Stage) (done : List Stage) (s : List Char) :
    stage.apply s (readBy done s) =
      match refusal? s stage with
      | some e => .error e
      | none => .ok (readBy (stage :: done) s) := by
  cases stage with
  | palindrome => exact congrArg Except.ok (readPalindrome_readBy done s)
  | wordCount => exact congrArg Except.ok (readWordCount_readBy done s)
  | length =>
    rw [refusal?_length]
    show readLength s (readBy done s) = _
    cases bounds : boundsOf s with
    | error e => exact readLength_readBy_refused bounds done
    | ok b => exact readLength_readBy bounds done
  | ordinalLetter =>
    rw [refusal?_ordinalLetter]
    show readOrdinal s (readBy done s) = _
    cases position : positionedOf s with
    | error e =>
      rw [readOrdinal_eq, position]
      rfl
    | ok c => exact readOrdinal_readBy position done
  | namedLetter => exact congrArg Except.ok (readLetter_readBy done s)
  | exclusion =>
    rw [readBy_exclusion]
    show refuseExclusion s (readBy done s) = match (match refuseExclusion s Filter.empty with
      | .error e => some e
      | .ok _ => none) with
      | some e => .error e
      | none => .ok (readBy done s)
    unfold refuseExclusion
    cases exclusionPhrase.find? s <;> rfl

/-- A list of stages stops at the first one that refuses the text. -/
theorem run_readBy (stages done : List Stage) (s : List Char) :
    run stages s (readBy done s) =
      match stages.findSome? (refusal? s) with
      | some e => .error e
      | none => .ok (readBy (stages ++ done) s) := by
  induction stages generalizing done with
  | nil => rfl
  | cons stage stages ih =>
    rw [run, apply_readBy, List.findSome?_cons]
    cases refusal? s stage with
    | some e => rfl
    | none =>
      have moved : readBy (stages ++ stage :: done) s = readBy (stage :: stages ++ done) s :=
        readBy_congr (fun other => List.perm_middle.mem_iff) s
      show run stages s (readBy (stage :: done) s) = _
      rw [ih, moved]

/-! ## All stages -/

theorem mem_all (stage : Stage) : stage ∈ all := by
  cases stage <;> decide

theorem run_all_stages (each : ∀ stage, stage ∈ stages) (s : List Char) :
    run stages s Filter.empty =
      match stages.findSome? (refusal? s) with
      | some e => .error e
      | none => .ok (readBy all s) := by
  have same : readBy (stages ++ []) s = readBy all s :=
    readBy_congr (fun stage => by simp [each, mem_all]) s
  rw [← readBy_nil s, run_readBy, same]

theorem run_eq_error_iff (each : ∀ stage, stage ∈ stages) {e : QueryError} :
    run stages s Filter.empty = .error e ↔ stages.findSome? (refusal? s) = some e := by
  rw [run_all_stages each]
  cases stages.findSome? (refusal? s) <;> simp

theorem findSome?_refusal?_eq_none_iff (each : ∀ stage, stage ∈ stages) :
    stages.findSome? (refusal? s) = none ↔ ∀ stage, refusal? s stage = none := by
  rw [List.findSome?_eq_none_iff]
  exact ⟨fun all_pass stage => all_pass stage (each stage), fun all_pass stage _ => all_pass stage⟩

/--
Stages that are taken in any order, each at least once, read the filter that they read in their
order, and no other. The order decides only which refusal is told: the first one in it.
-/
theorem run_confluent (each : ∀ stage, stage ∈ stages) (s : List Char) :
    (∀ f, run stages s Filter.empty = .ok f ↔ run all s Filter.empty = .ok f) ∧
      ∀ e, run stages s Filter.empty = .error e ↔ stages.findSome? (refusal? s) = some e := by
  refine ⟨fun f => ?_, fun e => run_eq_error_iff each⟩
  have pass : stages.findSome? (refusal? s) = none ↔ all.findSome? (refusal? s) = none :=
    (findSome?_refusal?_eq_none_iff each).trans (findSome?_refusal?_eq_none_iff mem_all).symm
  rw [run_all_stages each, run_all_stages mem_all]
  cases here : stages.findSome? (refusal? s) with
  | none => rw [pass.mp here]
  | some e =>
    cases there : all.findSome? (refusal? s) with
    | none =>
      rw [pass.mpr there] at here
      cases here
    | some e' => simp

/-- The named letter is read first here, and yet the ordinal one is kept. -/
theorem run_confluent_backwards :
    (∀ stage, stage ∈ exclusion :: all.reverse) ∧
      run (exclusion :: all.reverse) "first vowel containing z".toList Filter.empty =
        .ok { Filter.empty with containsCharacter := some 'a' } ∧
      run (exclusion :: all.reverse) "shorter than 0 does not contain z".toList Filter.empty =
        .error (.exclusion "does not contain") := by
  have each : ∀ stage, stage ∈ exclusion :: all.reverse := by
    intro stage
    cases stage <;> decide
  exact ⟨each, ((run_confluent each _).1 _).mpr rfl, ((run_confluent each _).2 _).mpr rfl⟩

end Stage
end TextCatalog
