import TextCatalog.Proofs.Pattern.Extension
import TextCatalog.Proofs.Query.Fields
import TextCatalog.Proofs.Query.Meaning
import TextCatalog.Proofs.Text.Context
import TextCatalog.Proofs.Traversal

/-!
# TextCatalog.Proofs.Query.Addition

A clause after the comma at the end of a query.

* `Addition` — a text in normal form, and the clause that is added to it.
* `findAll_whole` — what is found in the whole is what is found in the text and in the clause.
* `flagOf_whole`, `boundsOf_atLeast` and the others — the readings of the whole.
* `parse_added` — the clause sets its own field, and no other.
-/

namespace TextCatalog
namespace Query

open Pattern Text

/-- A text and a clause after a comma. Blanks that stood last in the query are kept before it. -/
structure Addition where
  text : List Char
  gap : List Char
  clause : Clause
  ink : ∀ c ∈ text.getLast?, isBlank c = false
  blank : ∀ c ∈ gap, isBlank c = true

namespace Addition

def whole (a : Addition) : List Char := a.text ++ (a.gap ++ ',' :: (' ' :: a.clause.text))

end Addition

variable {a : Addition} {p : Pattern}

/-! ## What is found -/

theorem isStop_comma : IsStop ',' := ⟨isBlank_comma, by decide, by decide⟩

theorem findAll_whole {f : Clause → List Match} (contained : p.IsContained ',')
    (plain : StartsPlainly p) (reads : Reads p f) (a : Addition) :
    p.findAll a.whole = p.findAll a.text ++ f a.clause := by
  obtain ⟨prev, found⟩ := reads a.clause (some ' ') [] isWord_space rfl
  have none_left : p.scan prev 0 [] = [] := by unfold scan; rfl
  rw [List.append_nil, none_left, List.append_nil] at found
  rw [Addition.whole, findAll_extend contained isStop_comma a.blank a.ink,
    scan_other plain.words isWord_space, found]

theorem findAll_whole_of_skipped (contained : p.IsContained ',') (plain : StartsPlainly p)
    (skipped : a.clause.isSkippedBy p = true) : p.findAll a.whole = p.findAll a.text := by
  have stop : ([] : List Char).head?.any isWord = false := rfl
  obtain ⟨prev, passed⟩ := scan_clause plain skipped stop (some ' ')
  have none_left : p.scan prev 0 [] = [] := by unfold scan; rfl
  rw [List.append_nil, none_left] at passed
  rw [Addition.whole, findAll_extend contained isStop_comma a.blank a.ink,
    scan_other plain.words isWord_space, passed, List.append_nil]

/-- The phrase for a position can start anywhere, but in no clause. -/
theorem findAll_ordinal (a : Addition) :
    ordinalPhrase.findAll a.whole = ordinalPhrase.findAll a.text := by
  have contained : ordinalPhrase.IsContained ',' := by decide
  have calm : isCalm (some ',') (' ' :: (a.clause.text ++ [])) = true := by
    rw [isCalm, if_pos isBlank_space, calm_text a.clause fun _ => rfl]
    rfl
  have nothing : ordinalPhrase.scan (some ',') 0 (' ' :: a.clause.text) = [] := by
    refine scan_eq_nil_iff.mpr fun pre t post xs text _ spells => ?_
    rw [List.append_nil, text, not_calm_of_spells spells] at calm
    cases calm
  rw [Addition.whole, findAll_extend contained isStop_comma a.blank a.ink, nothing,
    List.append_nil]

theorem numbersOf_whole (k : Comparison) (a : Addition) :
    numbersOf k.phrase a.whole = numbersOf k.phrase a.text ++ (k.number? a.clause).toList := by
  have contained : k.phrase.IsContained ',' := by cases k <;> decide
  rw [numbersOf, findAll_whole contained k.phrase_plain k.phrase_reads, List.filterMap_append,
    k.filterMap_found]
  rfl

/-! ## Readings -/

/-- The clauses whose field takes in what a clause before has set. -/
def Clause.isTightening : Clause → Bool
  | .atLeast _ | .atMost _ | .letter _ => true
  | _ => false

theorem isSkippedBy_of_tightening {c : Clause} (h : c.isTightening = true) :
    c.isSkippedBy palindromeDenied = true ∧ c.isSkippedBy palindromeAsked = true ∧
      c.isSkippedBy wordCountPhrase = true ∧ c.isSkippedBy betweenPhrase = true ∧
        c.isSkippedBy exclusionPhrase = true := by
  cases c with
  | atLeast n => exact ⟨rfl, rfl, rfl, rfl, rfl⟩
  | atMost n => exact ⟨rfl, rfl, rfl, rfl, rfl⟩
  | letter c => exact ⟨rfl, rfl, rfl, rfl, rfl⟩
  | _ => cases h

theorem flagOf_whole (h : a.clause.isTightening = true) : flagOf a.whole = flagOf a.text := by
  obtain ⟨notDenied, notAsked, _⟩ := isSkippedBy_of_tightening h
  have denied : palindromeDenied.occursIn a.whole = palindromeDenied.occursIn a.text :=
    congrArg (·.head?.isSome)
      (findAll_whole_of_skipped (by decide) palindromeDenied_plain notDenied)
  have asked : palindromeAsked.occursIn a.whole = palindromeAsked.occursIn a.text :=
    congrArg (·.head?.isSome)
      (findAll_whole_of_skipped (by decide) palindromeAsked_plain notAsked)
  rw [flagOf, flagOf, readPalindrome, readPalindrome, denied, asked]

theorem countOf_whole (h : a.clause.isTightening = true) : countOf a.whole = countOf a.text := by
  obtain ⟨_, _, notCounted, _⟩ := isSkippedBy_of_tightening h
  have counted := findAll_whole_of_skipped (by decide) wordCountPhrase_plain notCounted
  simp only [countOf, readWordCount, find?, counted]

theorem positionedOf_whole (a : Addition) : positionedOf a.whole = positionedOf a.text := by
  simp only [positionedOf, readOrdinal, findLast?, findAll_ordinal]

theorem exclusionPhrase_whole (h : a.clause.isTightening = true) :
    exclusionPhrase.occursIn a.whole = exclusionPhrase.occursIn a.text := by
  obtain ⟨_, _, _, _, notExcluded⟩ := isSkippedBy_of_tightening h
  have excluded := findAll_whole_of_skipped (by decide) exclusionPhrase_plain notExcluded
  simp only [occursIn, find?, excluded]

theorem findAll_letter_whole (a : Addition) :
    letterPhrase.findAll a.whole = letterPhrase.findAll a.text ++
      (a.clause.letter?.map fun c => Match.mk (Clause.letter c).text [[c.val]]).toList := by
  rw [findAll_whole (by decide) letterPhrase_plain letterPhrase_reads]
  cases a.clause <;> rfl

theorem namedOf_whole (a : Addition) :
    namedOf a.whole = (a.clause.letter?.map (·.val)).or (namedOf a.text) := by
  have unset : Filter.empty.containsCharacter = none := rfl
  simp only [namedOf, readLetter, unset, findLast?, findAll_letter_whole]
  cases a.clause.letter? with
  | none => rw [Option.map_none, Option.toList_none, List.append_nil]; rfl
  | some c =>
    rw [Option.map_some, Option.toList_some, List.getLast?_concat]
    rfl

/-! ## Bounds -/

/-- What a clause does to the bounds of the text before it. -/
def Clause.tighten (c : Clause) (b : Bounds) : Bounds :=
  c.atMost?.toList.foldl Bounds.lower (c.atLeast?.toList.foldl Bounds.raise b)

/-- Ranges replace only what has been read before them, and these bounds are read after them. -/
theorem boundsOf_whole (h : a.clause.isTightening = true) :
    boundsOf a.whole = (boundsOf a.text).map a.clause.tighten := by
  obtain ⟨_, _, _, notBetween, _⟩ := isSkippedBy_of_tightening h
  have longer :
      numbersOf longerPhrase a.whole = numbersOf longerPhrase a.text ++ a.clause.longer?.toList :=
    numbersOf_whole .longer a
  have shorter :
      numbersOf shorterPhrase a.whole =
        numbersOf shorterPhrase a.text ++ a.clause.shorter?.toList :=
    numbersOf_whole .shorter a
  have ranges := findAll_whole_of_skipped (by decide) betweenPhrase_plain notBetween
  have atLeast :
      numbersOf atLeastPhrase a.whole =
        numbersOf atLeastPhrase a.text ++ a.clause.atLeast?.toList :=
    numbersOf_whole .atLeast a
  have atMost :
      numbersOf atMostPhrase a.whole = numbersOf atMostPhrase a.text ++ a.clause.atMost?.toList :=
    numbersOf_whole .atMost a
  have noLonger : a.clause.longer? = none ∧ a.clause.shorter? = none := by
    revert h
    cases a.clause <;> simp [Clause.isTightening, Clause.longer?, Clause.shorter?]
  rw [noLonger.1, Option.toList_none, List.append_nil] at longer
  rw [noLonger.2, Option.toList_none, List.append_nil] at shorter
  simp only [boundsOf, readBounds, longer, shorter, ranges, atLeast, atMost, List.foldl_append]
  cases (numbersOf shorterPhrase a.text).foldlM Bounds.shorterThan
      ((numbersOf longerPhrase a.text).foldl Bounds.longerThan ⟨none, none⟩) with
  | error e => rfl
  | ok b =>
    simp only [bind, Except.bind]
    cases (betweenPhrase.findAll a.text).foldlM (fun _ m => rangeOf m) b with
    | error e => rfl
    | ok b =>
      refine congrArg Except.ok ?_
      rw [Clause.tighten, foldl_lower_raise (numbersOf atMostPhrase a.text)]

/-! ## Normal form -/

/-- The query with the clause after it. -/
def added (q : String) (c : Clause) : String := q ++ ", " ++ String.ofList c.text

theorem toList_added (q : String) (c : Clause) :
    (added q c).toList = q.toList ++ ',' :: (' ' :: c.text) := by
  simp only [added, String.toList_append, String.toList_ofList, List.append_assoc]
  rfl

theorem clause_last (c : Clause) :
    ∀ b ∈ (',' :: (' ' :: c.text)).getLast?, isBlank b = false := by
  obtain ⟨s, w, text, word⟩ := text_last c
  have final : ∀ b ∈ w.getLast?, isBlank b = false :=
    fun b last => isBlank_of_isWord (word.2 b (List.mem_of_getLast? last))
  rw [text]
  exact ink_append (s := ',' :: (' ' :: s)) final fun none_left => absurd none_left word.1

/-- In normal form, the clause stands after the normal form of the query. -/
theorem normalizeChars_added {q t : List Char} (normal : normalizeChars q = .ok t) (c : Clause) :
    ∃ a : Addition, a.text = t ∧ a.clause = c ∧
      normalizeChars (q ++ ',' :: (' ' :: c.text)) = .ok a.whole := by
  obtain ⟨rfl, readable⟩ := normalizeChars_eq_ok_iff.mp normal
  have some_left : trim (lowercase q) ≠ [] := by
    intro none_left
    rw [none_left] at readable
    cases readable
  have lowered : ∀ x ∈ ',' :: (' ' :: c.text), IsLowered x := by
    have marks : IsLowered ',' ∧ IsLowered ' ' := by decide
    exact List.forall_mem_cons.mpr ⟨marks.1, List.forall_mem_cons.mpr ⟨marks.2, text_isLowered c⟩⟩
  obtain ⟨gap, trimmed, blank⟩ :=
    trim_extend some_left (List.cons_ne_nil ',' (' ' :: c.text)) (clause_last c)
  refine ⟨⟨trim (lowercase q), gap, c, trim_last _, blank⟩, rfl, rfl,
    normalizeChars_eq_ok_iff.mpr ⟨?_, ?_⟩⟩
  · rw [lowercase_extend isBreak_comma lowered, trimmed]
    rfl
  · rw [Addition.whole, List.any_append, readable, Bool.true_or]

/-! ## The whole reading -/

/-- What the text and the clause ask for, if they can be met. -/
def tightened (s : List Char) (b : Bounds) (c : Option Char) (clause : Clause) : Filter where
  isPalindrome := flagOf s
  minLength := (clause.tighten b).least
  maxLength := (clause.tighten b).most
  wordCount := countOf s
  containsCharacter := c.or ((clause.letter?.map (·.val)).or (namedOf s))

theorem filterOf_added {q s : List Char} {b : Bounds} {c : Option Char} {clause : Clause}
    (h : clause.isTightening = true) (normal : normalizeChars q = .ok s)
    (bounds : boundsOf s = .ok b) (position : positionedOf s = .ok c)
    (absent : exclusionPhrase.occursIn s = false) :
    filterOf (q ++ ',' :: (' ' :: clause.text)) =
      (check (tightened s b c clause)).map fun _ => tightened s b c clause := by
  obtain ⟨a, rfl, rfl, whole⟩ := normalizeChars_added normal clause
  have bounds' : boundsOf a.whole = .ok (a.clause.tighten b) := by
    rw [boundsOf_whole h, bounds]
    rfl
  have position' : positionedOf a.whole = .ok c := (positionedOf_whole a).trans position
  have absent' : exclusionPhrase.occursIn a.whole = false := (exclusionPhrase_whole h).trans absent
  have fields : fieldsOf a.whole (a.clause.tighten b) c = tightened a.text b c a.clause := by
    rw [fieldsOf, flagOf_whole h, countOf_whole h, namedOf_whole]
    rfl
  rw [filterOf_of_readings whole bounds' position' absent', fields]

theorem parse_of_filterOf {q : String} {f : Filter} (set : f ≠ Filter.empty)
    (read : filterOf q.toList = (check f).map fun _ => f) :
    (parse q).mapError QueryError.kind =
      if ∃ min ∈ f.minLength, ∃ max ∈ f.maxLength, max < min then .error .conflicting
      else .ok ⟨q, f⟩ := by
  rw [parse, read]
  by_cases crossed : ∃ min ∈ f.minLength, ∃ max ∈ f.maxLength, max < min
  · obtain ⟨min, least, max, most, lt⟩ := crossed
    rw [if_pos ⟨min, least, max, most, lt⟩, check_of_crossed set least most lt]
    rfl
  · rw [if_neg crossed, check_eq_ok_iff.mpr ⟨set, crossed⟩]
    rfl

/--
A lower bound after an accepted query raises its lower bound, and an upper bound lowers its upper
one; the query is refused just if they cross. A letter replaces the letter of the query, unless that
one is named by its position.
-/
theorem parse_added {q : String} {r : Query} (h : parse q = .ok r) (n : Fin counts) (c : Letter) :
    (parse (added q (.atLeast n))).mapError QueryError.kind =
        (if ∃ most ∈ r.filter.maxLength, most < r.filter.minLength.elim n.val (max · n.val) then
          .error .conflicting
        else .ok ⟨added q (.atLeast n),
          { r.filter with minLength := some (r.filter.minLength.elim n.val (max · n.val)) }⟩) ∧
    (parse (added q (.atMost n))).mapError QueryError.kind =
        (if ∃ least ∈ r.filter.minLength, r.filter.maxLength.elim n.val (min · n.val) < least then
          .error .conflicting
        else .ok ⟨added q (.atMost n),
          { r.filter with maxLength := some (r.filter.maxLength.elim n.val (min · n.val)) }⟩) ∧
    ∃ s f, normalize q = .ok s ∧ readOrdinal s.toList Filter.empty = .ok f ∧
      parse (added q (.letter c)) = .ok ⟨added q (.letter c), { r.filter with
        containsCharacter :=
          if f.containsCharacter.isSome then r.filter.containsCharacter else some c.val }⟩ := by
  obtain ⟨accepted, _⟩ := parse_eq_ok_iff.mp h
  obtain ⟨s, b, o, normal, bounds, position, absent, checked, fields⟩ :=
    filterOf_eq_ok_iff.mp accepted
  have read : ∀ clause : Clause, clause.isTightening = true → filterOf (added q clause).toList =
      (check (tightened s b o clause)).map fun _ => tightened s b o clause := by
    intro clause tightening
    rw [toList_added]
    exact filterOf_added tightening normal bounds position absent
  rw [fields]
  refine ⟨?_, ?_, ?_⟩
  · have set : tightened s b o (.atLeast n) ≠ Filter.empty :=
      fun empty => by cases congrArg Filter.minLength empty
    rw [parse_of_filterOf set (read (.atLeast n) rfl)]
    simp [tightened, fieldsOf, Clause.tighten, Clause.atLeast?, Clause.atMost?, Clause.letter?,
      Bounds.raise]
  · have set : tightened s b o (.atMost n) ≠ Filter.empty :=
      fun empty => by cases congrArg Filter.maxLength empty
    rw [parse_of_filterOf set (read (.atMost n) rfl)]
    simp [tightened, fieldsOf, Clause.tighten, Clause.atLeast?, Clause.atMost?, Clause.letter?,
      Bounds.lower]
  · cases ordinal : readOrdinal s Filter.empty with
    | error e =>
      rw [positionedOf, ordinal] at position
      cases position
    | ok f =>
      have letter : f.containsCharacter = o := by
        rw [positionedOf, ordinal] at position
        cases position
        rfl
      have set : tightened s b o (.letter c) ≠ Filter.empty := by
        intro empty
        have unset := congrArg Filter.containsCharacter empty
        cases o <;> cases unset
      have apart : ¬∃ min ∈ (tightened s b o (.letter c)).minLength,
          ∃ max ∈ (tightened s b o (.letter c)).maxLength, max < min :=
        (check_eq_ok_iff.mp checked).2
      refine ⟨String.ofList s, f, ?_, ?_, ?_⟩
      · rw [normalize, normal]
        rfl
      · rw [String.toList_ofList, ordinal]
      · refine mapError_eq_ok_iff.mp ((parse_of_filterOf set (read (.letter c) rfl)).trans ?_)
        rw [if_neg apart, letter]
        cases o <;> rfl

/-- What is left unfinished before the comma stays unfinished. -/
theorem parse_added_after_dangling :
    parse "Palindromic ΟΔΟΣ between 3 and" =
        .ok ⟨"Palindromic ΟΔΟΣ between 3 and", { isPalindrome := some true }⟩ ∧
      (parse (added "Palindromic ΟΔΟΣ between 3 and" (.atLeast ⟨5, by decide⟩))).mapError
          QueryError.kind =
        .ok ⟨added "Palindromic ΟΔΟΣ between 3 and" (.atLeast ⟨5, by decide⟩),
          { isPalindrome := some true, minLength := some 5 }⟩ := by
  have read : parse "Palindromic ΟΔΟΣ between 3 and" =
      .ok ⟨"Palindromic ΟΔΟΣ between 3 and", { isPalindrome := some true }⟩ := by
    rfl
  refine ⟨read, (parse_added read ⟨5, by decide⟩ ⟨'z', by decide⟩).1.trans (if_neg ?_)⟩
  rintro ⟨most, ⟨⟩, _⟩

end Query
end TextCatalog
