import TextCatalog.Proofs.Query.Soundness

/-!
# TextCatalog.Proofs.Query.Fields

Every stage adds its own field to the filter and looks at no other, so that the filter of a text is
put together from readings of the text alone.

* `flagOf`, `countOf`, `boundsOf`, `positionedOf`, `namedOf` — the readings.
* `run_all`, `filterOf_of_normal` — all stages, and the whole reading, as one expression of them.
* `filterOf_eq_ok_iff` — which queries are read, and as what.
-/

namespace TextCatalog
namespace Query

open Pattern Text

variable {s : List Char} {f : Filter}

def flagOf (s : List Char) : Option Bool := (readPalindrome s Filter.empty).isPalindrome

def countOf (s : List Char) : Option Nat := (readWordCount s Filter.empty).wordCount

def boundsOf (s : List Char) : Except QueryError Bounds := readBounds s ⟨none, none⟩

/-- The letter that a position names, or none. -/
def positionedOf (s : List Char) : Except QueryError (Option Char) :=
  (readOrdinal s Filter.empty).map (·.containsCharacter)

def namedOf (s : List Char) : Option Char := (readLetter s Filter.empty).containsCharacter

/-! ## One stage -/

theorem readPalindrome_of_unset (h : f.isPalindrome = none) :
    readPalindrome s f = { f with isPalindrome := flagOf s } := by
  have unset : Filter.empty.isPalindrome = none := rfl
  simp only [flagOf, readPalindrome, h, unset]
  split
  · rfl
  · split
    · rfl
    · exact congrArg (fun b => { f with isPalindrome := b }) h

theorem readWordCount_eq (s : List Char) (f : Filter) :
    readWordCount s f = { f with wordCount := (countOf s).or f.wordCount } := by
  unfold countOf readWordCount
  split <;> rfl

theorem readWordCount_of_unset (h : f.wordCount = none) :
    readWordCount s f = { f with wordCount := countOf s } := by
  rw [readWordCount_eq, h, Option.or_none]

theorem readLength_of_unset (low : f.minLength = none) (high : f.maxLength = none) :
    readLength s f =
      (boundsOf s).map fun b => { f with minLength := b.least, maxLength := b.most } := by
  rw [readLength, low, high, boundsOf]
  cases readBounds s ⟨none, none⟩ <;> rfl

theorem apply_eq (r : OrdinalRequest) (f : Filter) :
    r.apply f = ((r.apply Filter.empty).map (·.containsCharacter)).map
      fun c => { f with containsCharacter := c.or f.containsCharacter } := by
  unfold OrdinalRequest.apply
  split
  · rfl
  · split
    · rfl
    · split <;> rfl

theorem readOrdinal_eq (s : List Char) (f : Filter) :
    readOrdinal s f = (positionedOf s).map
      fun c => { f with containsCharacter := c.or f.containsCharacter } := by
  unfold positionedOf readOrdinal
  split
  · rfl
  · exact apply_eq _ f

theorem readOrdinal_of_unset (h : f.containsCharacter = none) :
    readOrdinal s f = (positionedOf s).map fun c => { f with containsCharacter := c } := by
  rw [readOrdinal_eq, h]
  simp only [Option.or_none]

theorem readLetter_eq (s : List Char) (f : Filter) :
    readLetter s f = { f with containsCharacter := f.containsCharacter.or (namedOf s) } := by
  unfold namedOf readLetter
  cases set : f.containsCharacter with
  | some c => exact congrArg (fun c => { f with containsCharacter := c }) set
  | none =>
    dsimp only
    split
    · rfl
    · exact congrArg (fun c => { f with containsCharacter := c }) set

theorem namedOf_eq (s : List Char) :
    namedOf s = (letterPhrase.findLast? s).bind fun m => (m.capture 0).head? := by
  have unset : Filter.empty.containsCharacter = none := rfl
  simp only [namedOf, readLetter, unset]
  split
  · rename_i c named
    exact named.symm
  · rename_i unnamed
    exact unnamed.symm

/-! ## All stages -/

/-- The filter of a text whose bounds and position are read already. -/
def fieldsOf (s : List Char) (b : Bounds) (c : Option Char) : Filter :=
  ⟨flagOf s, b.least, b.most, countOf s, c.or (namedOf s)⟩

/-- Only three readings can refuse a text: the lengths, the position, and the exclusions. -/
theorem run_all (s : List Char) : Stage.run Stage.all s Filter.empty = (do
    let b ← boundsOf s
    let c ← positionedOf s
    refuseExclusion s (fieldsOf s b c)) := by
  simp only [Stage.run, Stage.all, Stage.apply, readPalindrome_of_unset (f := Filter.empty) rfl]
  rw [readWordCount_of_unset rfl, readLength_of_unset rfl rfl]
  cases boundsOf s with
  | error e => rfl
  | ok b =>
    simp only [Except.map]
    rw [readOrdinal_of_unset rfl]
    cases positionedOf s with
    | error e => rfl
    | ok c =>
      simp only [Except.map, readLetter_eq]
      show _ = refuseExclusion s (fieldsOf s b c)
      unfold fieldsOf
      cases refuseExclusion s _ <;> rfl

theorem refuseExclusion_of_absent (h : exclusionPhrase.occursIn s = false) (f : Filter) :
    refuseExclusion s f = .ok f := by
  rw [refuseExclusion, Option.isSome_eq_false_iff.mp h |> Option.isNone_iff_eq_none.mp]

theorem refuseExclusion_of_present (h : exclusionPhrase.occursIn s = true) :
    ∃ phrase, ∀ f, refuseExclusion s f = .error (.exclusion phrase) := by
  obtain ⟨m, found⟩ := Option.isSome_iff_exists.mp h
  refine ⟨String.ofList m.text, fun f => ?_⟩
  rw [refuseExclusion, found]

/-! ## The last check -/

theorem check_of_crossed {f : Filter} {min max : Nat} (set : f ≠ Filter.empty)
    (least : f.minLength = some min) (most : f.maxLength = some max) (crossed : max < min) :
    check f = .error (.crossedBounds min max) := by
  have notEmpty : ¬f.isEmpty = true := fun h => set (Filter.isEmpty_iff.mp h)
  rw [check, if_neg notEmpty, least, most]
  exact if_pos crossed

theorem check_of_ordered {f : Filter} (set : f ≠ Filter.empty)
    (ordered : ∀ min ∈ f.minLength, ∀ max ∈ f.maxLength, min ≤ max) : check f = .ok () := by
  have notEmpty : ¬f.isEmpty = true := fun h => set (Filter.isEmpty_iff.mp h)
  rw [check, if_neg notEmpty]
  split
  · rename_i min max least most
    exact if_neg (Nat.not_lt.mpr (ordered min least max most))
  · rfl

/-- The least length is above the greatest. -/
def Bounds.AreCrossed (b : Bounds) : Prop := ∃ min ∈ b.least, ∃ max ∈ b.most, max < min

theorem check_eq_ok_iff : check f = .ok () ↔
    f ≠ Filter.empty ∧ ¬Bounds.AreCrossed ⟨f.minLength, f.maxLength⟩ := by
  constructor
  · intro h
    obtain ⟨set, room⟩ := check_ok h
    refine ⟨set, ?_⟩
    rintro ⟨min, least, max, most, crossed⟩
    have := room min max least most
    omega
  · rintro ⟨set, apart⟩
    exact check_of_ordered set fun min least max most =>
      Nat.not_lt.mp fun crossed => apart ⟨min, least, max, most, crossed⟩

/-! ## The whole reading -/

theorem normalizeChars_eq_ok_iff {q : List Char} :
    normalizeChars q = .ok s ↔ trim (lowercase q) = s ∧ s.any isReadable = true := by
  cases q with
  | nil =>
    constructor
    · intro h
      cases h
    · rintro ⟨rfl, readable⟩
      cases readable
  | cons c q =>
    simp only [normalizeChars]
    split
    · rename_i readable
      constructor
      · rintro ⟨⟩
        exact ⟨rfl, readable⟩
      · rintro ⟨rfl, _⟩
        rfl
    · rename_i unreadable
      constructor
      · intro h
        cases h
      · rintro ⟨rfl, readable⟩
        exact absurd readable unreadable

theorem filterOf_of_run {q : List Char} (normal : normalizeChars q = .ok s) :
    filterOf q = (Stage.run Stage.all s Filter.empty >>= fun f => check f >>= fun _ => pure f) := by
  rw [filterOf, normal]
  rfl

theorem filterOf_of_normal {q : List Char} (normal : normalizeChars q = .ok s) :
    filterOf q = (do
      let b ← boundsOf s
      let c ← positionedOf s
      let f ← refuseExclusion s (fieldsOf s b c)
      check f
      return f) := by
  rw [filterOf_of_run normal, run_all]
  cases boundsOf s with
  | error e => rfl
  | ok b => cases positionedOf s <;> rfl

/-- A text without an exclusion, of which the bounds and the position can be read, is left to the
last check. -/
theorem filterOf_of_readings {q : List Char} {b : Bounds} {c : Option Char}
    (normal : normalizeChars q = .ok s) (bounds : boundsOf s = .ok b)
    (position : positionedOf s = .ok c) (absent : exclusionPhrase.occursIn s = false) :
    filterOf q = (check (fieldsOf s b c)).map fun _ => fieldsOf s b c := by
  simp only [filterOf_of_normal normal, bounds, position, bind, Except.bind,
    refuseExclusion_of_absent absent]
  cases check (fieldsOf s b c) <;> rfl

/-- What holds of a query that is read, and of no other. -/
theorem filterOf_eq_ok_iff {q : List Char} : filterOf q = .ok f ↔
    ∃ s b c, normalizeChars q = .ok s ∧ boundsOf s = .ok b ∧ positionedOf s = .ok c ∧
      exclusionPhrase.occursIn s = false ∧ check (fieldsOf s b c) = .ok () ∧
        f = fieldsOf s b c := by
  constructor
  · intro h
    cases normal : normalizeChars q with
    | error e =>
      rw [filterOf, normal] at h
      cases h
    | ok s =>
      rw [filterOf_of_normal normal] at h
      cases bounds : boundsOf s with
      | error e =>
        rw [bounds] at h
        cases h
      | ok b =>
        cases position : positionedOf s with
        | error e =>
          rw [bounds, position] at h
          cases h
        | ok c =>
          simp only [bounds, position, bind, Except.bind] at h
          cases present : exclusionPhrase.occursIn s with
          | true =>
            obtain ⟨phrase, refused⟩ := refuseExclusion_of_present present
            rw [refused] at h
            cases h
          | false =>
            rw [refuseExclusion_of_absent present] at h
            cases checked : check (fieldsOf s b c) with
            | error e =>
              simp only [checked] at h
              cases h
            | ok =>
              simp only [checked] at h
              cases h
              exact ⟨s, b, c, rfl, bounds, position, present, checked, rfl⟩
  · rintro ⟨s, b, c, normal, bounds, position, absent, checked, rfl⟩
    rw [filterOf_of_readings normal bounds position absent, checked]
    rfl

theorem parse_eq_ok_iff {q : String} {r : Query} :
    parse q = .ok r ↔ filterOf q.toList = .ok r.filter ∧ r.original = q := by
  unfold parse
  cases filterOf q.toList with
  | error e => simp [Except.map]
  | ok f =>
    constructor
    · rintro ⟨⟩
      exact ⟨rfl, rfl⟩
    · rintro ⟨⟨⟩, rfl⟩
      rfl

theorem parse_eq_error_iff {q : String} {e : QueryError} :
    parse q = .error e ↔ filterOf q.toList = .error e := by
  unfold parse
  cases filterOf q.toList <;> simp [Except.map]

end Query
end TextCatalog
