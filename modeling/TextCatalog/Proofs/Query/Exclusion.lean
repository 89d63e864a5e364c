import TextCatalog.Proofs.Query.ClauseCue
import TextCatalog.Proofs.Query.Fields
import TextCatalog.Proofs.Query.Palindrome

/-!
# TextCatalog.Proofs.Query.Exclusion

Which wishes for texts without a letter are refused.

* `NegatedVerb`, `NegatedLetter` — a negation right before a verb, and before a phrase that asks
  for a letter.
* `IsExcluded`, `exclusionPhrase_iff` — the texts in which an exclusion is understood: only a verb
  without an ending counts.
* `letterPhrase_negatedLetter` — a negated wish for a letter also reads as a wish for it.
* `parse_negatedLetter` — so that it is refused, or is read as the opposite.
-/

namespace TextCatalog
namespace Query

open Pattern Text

variable {prev : Option Char} {s rest : List Char} {xs : List (List Char)}

inductive Negation : List Char → Prop where
  | doesNot {gap : List Char} (blank : IsGap gap) :
    Negation ("does".toList ++ (gap ++ "not".toList))
  | contracted {w : List Char} (known : w ∈ shortened "doesn") : Negation w
  | word {w : String} (known : w ∈ ["without", "excluding", "not"]) : Negation w.toList

/-- The verbs that are understood after a negation. -/
def exclusionVerbs : List String := ["contain", "include", "have"]

/-- The verbs that ask for a letter. The endings are put on without a change to the verb. -/
def letterVerbs : List String :=
  ["contain", "contains", "containing", "include", "includes", "includeing", "has", "with",
    "having"]

/-- A verb right after a negation, both of them whole words, somewhere in a text. -/
structure NegatedVerb where
  before : List Char
  negation : List Char
  gap : List Char
  verb : String
  after : List Char
  known : Negation negation
  gap_blank : IsGap gap
  opens : before.getLast?.any isWord = false
  closes : after.head?.any isWord = false

def NegatedVerb.text (n : NegatedVerb) : List Char :=
  n.before ++ (n.negation ++ (n.gap ++ (n.verb.toList ++ n.after)))

/-- An exclusion is understood somewhere in the text. -/
def IsExcluded (s : List Char) : Prop := ∃ n : NegatedVerb, n.verb ∈ exclusionVerbs ∧ n.text = s

/-- A word with the blanks after it, if there is one. -/
def wordText (w : String) : Option (List Char) → List Char
  | none => []
  | some gap => w.toList ++ gap

/-- A phrase that asks for a letter, right after a negation. -/
structure NegatedLetter extends NegatedVerb where
  space : List Char
  article : Option (List Char)
  noun : Option (List Char)
  letter : Letter
  rest : List Char
  asks : verb ∈ letterVerbs
  space_blank : IsGap space
  article_blank : ∀ g ∈ article, IsGap g
  noun_blank : ∀ g ∈ noun, IsGap g
  alone : rest.head?.any isWord = false
  names : after = space ++ (wordText "the" article ++ (wordText "letter" noun ++
    ([letter.val] ++ rest)))

/-! ## Exclusions -/

theorem shortened_isWord : ∀ w ∈ shortened "doesn",
    w.head?.any isWord = true ∧ w.getLast?.any isWord = true := by
  decide

theorem negation_word_isWord : ∀ w ∈ ["without", "excluding", "not"], IsWord w.toList := by decide

theorem exclusionVerbs_isWord : ∀ w ∈ exclusionVerbs, IsWord w.toList := by decide

theorem Negation.isWord {w : List Char} (h : Negation w) (prev : Option Char) (rest : List Char) :
    (w ++ rest).head?.any Text.isWord = true ∧ (lastOf prev w).any Text.isWord = true := by
  cases h with
  | doesNot blank =>
    refine ⟨head?_append_isWord (head?_append_isWord rfl), ?_⟩
    rw [← List.append_assoc]
    exact lastOf_append_isWord rfl
  | contracted known =>
    obtain ⟨first, last⟩ := shortened_isWord _ known
    exact ⟨head?_append_isWord first, lastOf_isWord last⟩
  | word known =>
    have word := negation_word_isWord _ known
    exact ⟨head_isWord word rest, last_isWord word prev⟩

theorem spells_negation_iff :
    (oneOf (Pattern.text "does" ++ blanks ++ Pattern.text "not")
      [contracted "doesn", Pattern.text "without", Pattern.text "excluding",
       Pattern.text "not"]).Spells prev s rest xs ↔ Negation s ∧ xs = [] := by
  rw [spells_oneOf_iff]
  constructor
  · rintro ⟨q, mem, spells⟩
    simp only [List.mem_cons, List.not_mem_nil, or_false] at mem
    rcases mem with rfl | rfl | rfl | rfl | rfl
    · obtain ⟨_, _, _, _, rfl, rfl, ⟨_, _, _, _, rfl, rfl, ⟨rfl, rfl⟩, space⟩, rfl, rfl⟩ := spells
      obtain ⟨⟨gap, _⟩, rfl⟩ := spells_blanks_iff.mp space
      rw [List.append_assoc]
      exact ⟨.doesNot gap, rfl⟩
    · obtain ⟨known, rfl⟩ := spells_contracted_iff.mp spells
      exact ⟨.contracted known, rfl⟩
    · obtain ⟨rfl, rfl⟩ := spells
      exact ⟨.word (by decide), rfl⟩
    · obtain ⟨rfl, rfl⟩ := spells
      exact ⟨.word (by decide), rfl⟩
    · obtain ⟨rfl, rfl⟩ := spells
      exact ⟨.word (by decide), rfl⟩
  · rintro ⟨negation, rfl⟩
    cases negation with
    | @doesNot gap blank =>
      refine ⟨_, List.mem_cons_self, "does".toList ++ gap, _, [], [], ?_, rfl,
        ⟨_, gap, [], [], rfl, rfl, ⟨rfl, rfl⟩, spells_blanks_iff.mpr ⟨⟨blank, ?_⟩, rfl⟩⟩, rfl, rfl⟩
      · rw [List.append_assoc]
      · rintro c ⟨⟩
        rfl
    | contracted known =>
      exact ⟨_, List.mem_cons_of_mem _ List.mem_cons_self, spells_contracted_iff.mpr ⟨known, rfl⟩⟩
    | @word w known =>
      refine ⟨Pattern.text w, ?_, rfl, rfl⟩
      simp only [List.mem_cons, List.not_mem_nil, or_false] at known
      rcases known with rfl | rfl | rfl <;> simp

/-- Between a negation and a verb the two boundaries leave no choice: there are blanks. -/
theorem exclusionPhrase_spells_iff : exclusionPhrase.Spells prev s rest xs ↔
    ((∃ w gap verb, Negation w ∧ IsGap gap ∧ verb ∈ exclusionVerbs ∧
      s = w ++ (gap ++ verb.toList)) ∧ xs = []) ∧
      prev.any isWord = false ∧ rest.head?.any isWord = false := by
  constructor
  · rintro ⟨_, _, _, _, rfl, rfl, ⟨_, _, _, _, rfl, rfl, ⟨_, gap, _, _, rfl, rfl,
      ⟨_, _, _, _, rfl, rfl, ⟨_, w, _, _, rfl, rfl, ⟨⟨rfl, opens⟩, rfl⟩, negation⟩,
      ⟨rfl, ends⟩, rfl⟩, space⟩, verb⟩, ⟨rfl, closes⟩, rfl⟩
    obtain ⟨known, rfl⟩ := spells_negation_iff.mp negation
    obtain ⟨⟨v, mem, rfl⟩, rfl⟩ := spells_oneWord_iff.mp verb
    have mem : v ∈ exclusionVerbs := mem
    have word := exclusionVerbs_isWord v mem
    simp only [List.append_nil, List.nil_append, List.append_assoc] at *
    have first := (known.isWord prev (gap ++ (v.toList ++ rest))).1
    rw [first] at opens
    rw [← List.append_assoc, lastOf_append, last_isWord word] at closes
    rcases space with space | ⟨rfl, rfl⟩
    · obtain ⟨⟨blank, _⟩, rfl⟩ := spells_blanks_iff.mp space
      exact ⟨⟨⟨w, gap, v, known, blank, mem, rfl⟩, rfl⟩,
        Bool.eq_false_iff.mpr opens, Bool.eq_false_iff.mpr (Ne.symm closes)⟩
    · refine absurd ?_ ends
      rw [(known.isWord prev []).2]
      exact (head_isWord word rest).symm
  · rintro ⟨⟨⟨w, gap, v, known, blank, mem, rfl⟩, rfl⟩, opens, closes⟩
    have word := exclusionVerbs_isWord v mem
    have start : prev.any isWord ≠ (w ++ (gap ++ (v.toList ++ rest))).head?.any isWord := by
      rw [opens, (known.isWord prev _).1]
      decide
    have between : (lastOf prev ([] ++ w)).any isWord ≠ (gap ++ (v.toList ++ rest)).head?.any
        isWord := by
      rw [head?_gap_append blank, List.nil_append, (known.isWord prev []).2]
      decide
    have stop : (lastOf prev ([] ++ w ++ [] ++ gap ++ v.toList)).any isWord ≠
        rest.head?.any isWord := by
      rw [closes, lastOf_append, last_isWord word]
      decide
    have h : exclusionPhrase.Spells prev ([] ++ w ++ [] ++ gap ++ v.toList ++ []) rest
        ([] ++ [] ++ [] ++ [] ++ [] ++ []) := by
      refine .seq (.seq (.seq (.seq (.seq ⟨⟨rfl, ?_⟩, rfl⟩ ?_) ⟨⟨rfl, ?_⟩, rfl⟩) (.inl ?_)) ?_)
        ⟨⟨rfl, ?_⟩, rfl⟩
      · simpa only [List.append_assoc, List.nil_append] using start
      · exact spells_negation_iff.mpr ⟨known, rfl⟩
      · simpa only [List.append_assoc, List.nil_append] using between
      · exact spells_blanks_iff.mpr ⟨⟨blank, head_isBlank word _⟩, rfl⟩
      · exact spells_oneWord_iff.mpr ⟨⟨v, mem, rfl⟩, rfl⟩
      · exact stop
    simpa only [List.append_assoc, List.append_nil, List.nil_append] using h

theorem Negation.ne_nil {w : List Char} (h : Negation w) : w ≠ [] := by
  rintro rfl
  have first := (h.isWord none []).1
  cases first

theorem exclusionPhrase_iff : exclusionPhrase.occursIn s = true ↔ IsExcluded s := by
  rw [occursIn_iff]
  constructor
  · rintro ⟨before, _, after, xs, rfl, _, spells⟩
    obtain ⟨⟨⟨w, gap, v, known, blank, mem, rfl⟩, _⟩, opens, closes⟩ :=
      exclusionPhrase_spells_iff.mp spells
    rw [lastOf_none] at opens
    refine ⟨⟨before, w, gap, v, after, known, blank, opens, closes⟩, mem, ?_⟩
    simp only [NegatedVerb.text, List.append_assoc]
  · rintro ⟨⟨before, w, gap, v, after, known, blank, opens, closes⟩, mem, rfl⟩
    refine ⟨before, w ++ (gap ++ v.toList), after, [], ?_, ?_, exclusionPhrase_spells_iff.mpr
      ⟨⟨⟨w, gap, v, known, blank, mem, rfl⟩, rfl⟩, by rwa [lastOf_none], closes⟩⟩
    · simp only [NegatedVerb.text, List.append_assoc]
    · simp [known.ne_nil]

/-! ## Negated wishes for a letter -/

theorem spells_wordText {w : String} {gap : Option (List Char)} (blank : ∀ g ∈ gap, IsGap g)
    (stop : ∀ c ∈ rest.head?, isBlank c = false) :
    (maybe (Pattern.text w ++ blanks)).Spells prev (wordText w gap) rest [] := by
  cases gap with
  | none => exact .inr ⟨rfl, rfl⟩
  | some g =>
    exact .inl ⟨w.toList, g, [], [], rfl, rfl, ⟨rfl, rfl⟩,
      spells_blanks_iff.mpr ⟨⟨blank g rfl, stop⟩, rfl⟩⟩

theorem spells_inflected {verb ending : String} (h : ending ∈ ["", "s", "ing"]) :
    (inflected verb).Spells prev (verb.toList ++ ending.toList) rest [] := by
  refine ⟨verb.toList, ending.toList, [], [], rfl, rfl, ⟨rfl, rfl⟩, ?_⟩
  rcases List.mem_cons.mp h with rfl | mem
  · exact .inr ⟨rfl, rfl⟩
  · exact .inl (spells_oneWord_iff.mpr ⟨⟨ending, mem, rfl⟩, rfl⟩)

theorem spells_letterVerb {v : String} (h : v ∈ letterVerbs) :
    (oneOf (inflected "contain") [inflected "include", Pattern.text "has", Pattern.text "with",
      Pattern.text "having"]).Spells prev v.toList rest [] := by
  have contain : ∀ ending ∈ ["", "s", "ing"], (inflected "contain").Spells prev
      ("contain".toList ++ ending.toList) rest [] := fun _ mem => spells_inflected mem
  have includes : ∀ ending ∈ ["", "s", "ing"], (inflected "include").Spells prev
      ("include".toList ++ ending.toList) rest [] := fun _ mem => spells_inflected mem
  rw [spells_oneOf_iff]
  simp only [letterVerbs, List.mem_cons, List.not_mem_nil, or_false] at h
  rcases h with rfl | rfl | rfl | rfl | rfl | rfl | rfl | rfl | rfl
  · exact ⟨_, List.mem_cons_self, contain "" (by decide)⟩
  · exact ⟨_, List.mem_cons_self, contain "s" (by decide)⟩
  · exact ⟨_, List.mem_cons_self, contain "ing" (by decide)⟩
  · exact ⟨_, List.mem_cons_of_mem _ List.mem_cons_self, includes "" (by decide)⟩
  · exact ⟨_, List.mem_cons_of_mem _ List.mem_cons_self, includes "s" (by decide)⟩
  · exact ⟨_, List.mem_cons_of_mem _ List.mem_cons_self, includes "ing" (by decide)⟩
  · exact ⟨Pattern.text "has", by simp, rfl, rfl⟩
  · exact ⟨Pattern.text "with", by simp, rfl, rfl⟩
  · exact ⟨Pattern.text "having", by simp, rfl, rfl⟩

theorem letterVerbs_isWord : ∀ w ∈ letterVerbs, IsWord w.toList := by decide

theorem head_wordText {w : String} (word : IsWord w.toList) (gap : Option (List Char))
    (stop : ∀ c ∈ rest.head?, isBlank c = false) :
    ∀ c ∈ (wordText w gap ++ rest).head?, isBlank c = false := by
  cases gap with
  | none => exact stop
  | some g =>
    rw [wordText, List.append_assoc]
    exact head_isBlank word _

theorem letterPhrase_spells {verb : String} {space : List Char} {article noun : Option (List Char)}
    (asks : verb ∈ letterVerbs) (space_blank : IsGap space) (article_blank : ∀ g ∈ article, IsGap g)
    (noun_blank : ∀ g ∈ noun, IsGap g) (c : Letter) (opens : prev.any isWord = false)
    (alone : rest.head?.any isWord = false) :
    letterPhrase.Spells prev (verb.toList ++ (space ++ (wordText "the" article ++
      (wordText "letter" noun ++ [c.val])))) rest [[c.val]] := by
  have word := letterVerbs_isWord verb asks
  have name := letter_isWord c
  have latin : (CharClass.span 'a' 'z').has c.val = true :=
    Bool.and_eq_true_iff.mpr ⟨decide_eq_true c.2.1, decide_eq_true c.2.2⟩
  have afterNoun := head_isBlank name rest
  have afterArticle := head_wordText (w := "letter") (by decide) noun afterNoun
  have afterSpace := head_wordText (w := "the") (by decide) article afterArticle
  have start : prev.any isWord ≠ (verb.toList ++ (space ++ (wordText "the" article ++
      (wordText "letter" noun ++ ([c.val] ++ rest))))).head?.any isWord := by
    rw [opens, head_isWord word]
    decide
  have stop : (lastOf prev ([] ++ verb.toList ++ space ++ wordText "the" article ++
      wordText "letter" noun ++ [c.val])).any isWord ≠ rest.head?.any isWord := by
    rw [alone, lastOf_append, last_isWord name]
    decide
  have h : letterPhrase.Spells prev ([] ++ verb.toList ++ space ++ wordText "the" article ++
      wordText "letter" noun ++ [c.val] ++ []) rest
      ([] ++ [] ++ [] ++ [] ++ [] ++ ([] ++ [[c.val]]) ++ []) := by
    refine .seq (.seq (.seq (.seq (.seq (.seq ⟨⟨rfl, ?_⟩, rfl⟩ ?_) ?_) ?_) ?_) (.captured ?_))
      ⟨⟨rfl, stop⟩, rfl⟩
    · simpa only [List.append_assoc, List.nil_append] using start
    · exact spells_letterVerb asks
    · refine spells_blanks_iff.mpr ⟨⟨space_blank, ?_⟩, rfl⟩
      simpa only [List.append_assoc, List.nil_append] using afterSpace
    · refine spells_wordText article_blank ?_
      simpa only [List.append_assoc, List.nil_append] using afterArticle
    · refine spells_wordText noun_blank ?_
      simpa only [List.append_assoc, List.nil_append] using afterNoun
    · exact ⟨⟨c.val, rfl, latin⟩, rfl⟩
  simpa only [List.append_assoc, List.append_nil, List.nil_append] using h

/-- The negation is not looked at by the phrase that asks for a letter. -/
theorem letterPhrase_negatedLetter (n : NegatedLetter) :
    letterPhrase.occursIn n.toNegatedVerb.text = true := by
  have opens : (lastOf none (n.before ++ (n.negation ++ n.gap))).any isWord = false := by
    rw [← List.append_assoc]
    exact lastOf_append_gap n.gap_blank
  refine occursIn_iff.mpr ⟨n.before ++ (n.negation ++ n.gap), _, n.rest, _, ?_, ?_,
    letterPhrase_spells n.asks n.space_blank n.article_blank n.noun_blank n.letter opens n.alone⟩
  · simp only [NegatedVerb.text, n.names, List.append_assoc]
  · simp

theorem namedOf_of_occurs (h : letterPhrase.occursIn s = true) : ∃ c, namedOf s = some c := by
  obtain ⟨m, first⟩ := Option.isSome_iff_exists.mp h
  have ne : letterPhrase.findAll s ≠ [] := List.ne_nil_of_mem (mem_findAll_of_find? first)
  have last : letterPhrase.findLast? s = some _ := List.getLast?_eq_some_getLast ne
  obtain ⟨c, _, _, letter⟩ := letter_of_findLast? last
  refine ⟨c, ?_⟩
  rw [namedOf_eq, last, Option.bind_some, letter]
  rfl

/-! ## The whole reading -/

theorem isExcluded_of_plain {n : NegatedVerb} (h : n.verb ∈ exclusionVerbs) : IsExcluded n.text :=
  ⟨n, h, rfl⟩

/-- What the text says of lengths and positions cannot be read or cannot be met. -/
def IsFaulty (s : List Char) : Prop :=
  (∃ e, boundsOf s = .error e) ∨ (∃ e, positionedOf s = .error e) ∨
    ∃ b, boundsOf s = .ok b ∧ b.AreCrossed

theorem fieldsOf_letter (h : letterPhrase.occursIn s = true) (b : Bounds) (c : Option Char) :
    ∃ d, (fieldsOf s b c).containsCharacter = some d := by
  obtain ⟨letter, named⟩ := namedOf_of_occurs h
  show ∃ d, c.or (namedOf s) = some d
  rw [named]
  cases c with
  | none => exact ⟨letter, rfl⟩
  | some d => exact ⟨d, rfl⟩

/-- A text that asks for a letter always asks for something. -/
theorem filterOf_eq_ok_iff_of_letter {q : List Char} {f : Filter}
    (normal : normalizeChars q = .ok s)
    (letter : letterPhrase.occursIn s = true) : filterOf q = .ok f ↔
      ∃ b c, boundsOf s = .ok b ∧ positionedOf s = .ok c ∧ ¬IsExcluded s ∧ ¬b.AreCrossed ∧
        f = fieldsOf s b c := by
  rw [filterOf_eq_ok_iff]
  constructor
  · rintro ⟨s', b, c, normal', bounds, position, absent, checked, same⟩
    rw [normal] at normal'
    cases normal'
    refine ⟨b, c, bounds, position, ?_, (check_eq_ok_iff.mp checked).2, same⟩
    rw [← exclusionPhrase_iff, absent]
    decide
  · rintro ⟨b, c, bounds, position, absent, apart, same⟩
    rw [← exclusionPhrase_iff, Bool.not_eq_true] at absent
    refine ⟨s, b, c, normal, bounds, position, absent, check_eq_ok_iff.mpr ⟨?_, apart⟩, same⟩
    intro empty
    obtain ⟨d, set⟩ := fieldsOf_letter letter b c
    rw [empty] at set
    cases set

theorem filterOf_eq_error_iff_of_letter {q : List Char} (normal : normalizeChars q = .ok s)
    (letter : letterPhrase.occursIn s = true) :
    (∃ e, filterOf q = .error e) ↔ IsExcluded s ∨ IsFaulty s := by
  constructor
  · rintro ⟨e, refused⟩
    by_cases excluded : IsExcluded s
    · exact .inl excluded
    refine .inr ?_
    cases bounds : boundsOf s with
    | error e => exact .inl ⟨e, bounds⟩
    | ok b =>
      cases position : positionedOf s with
      | error e => exact .inr (.inl ⟨e, position⟩)
      | ok c =>
        by_cases crossed : b.AreCrossed
        · exact .inr (.inr ⟨b, bounds, crossed⟩)
        · have accepted := (filterOf_eq_ok_iff_of_letter normal letter).mpr
            ⟨b, c, bounds, position, excluded, crossed, rfl⟩
          rw [refused] at accepted
          cases accepted
  · intro fault
    cases read : filterOf q with
    | error e => exact ⟨e, rfl⟩
    | ok f =>
      obtain ⟨b, c, bounds, position, noExclusion, apart, _⟩ :=
        (filterOf_eq_ok_iff_of_letter normal letter).mp read
      rcases fault with excluded | ⟨e, refused⟩ | ⟨e, refused⟩ | ⟨b', bounds', crossed⟩
      · exact absurd excluded noExclusion
      · rw [bounds] at refused
        cases refused
      · rw [position] at refused
        cases refused
      · rw [bounds] at bounds'
        cases bounds'
        exact absurd crossed apart

/--
A negated wish for a letter is refused if its verb has no ending. With an ending it takes another
exclusion in the text, or a fault in what the text says of lengths and positions, to refuse it; if
it is not refused, a letter is asked for where one was to be left out.
-/
theorem parse_negatedLetter (n : NegatedLetter) {q : String}
    (h : normalizeChars q.toList = .ok n.toNegatedVerb.text) :
    (n.verb ∈ exclusionVerbs → ∃ e, parse q = .error e) ∧
    ((∃ e, parse q = .error e) ↔
      IsExcluded n.toNegatedVerb.text ∨ IsFaulty n.toNegatedVerb.text) ∧
    ∀ r, parse q = .ok r → ∃ c, r.filter.containsCharacter = some c := by
  have letter := letterPhrase_negatedLetter n
  have refused : (∃ e, parse q = .error e) ↔
      IsExcluded n.toNegatedVerb.text ∨ IsFaulty n.toNegatedVerb.text := by
    simp only [parse_eq_error_iff]
    exact filterOf_eq_error_iff_of_letter h letter
  refine ⟨fun plain => refused.mpr (.inl (isExcluded_of_plain plain)), refused, ?_⟩
  intro r read
  obtain ⟨b, c, _, _, _, _, same⟩ :=
    (filterOf_eq_ok_iff_of_letter h letter).mp (parse_eq_ok_iff.mp read).1
  rw [same]
  exact fieldsOf_letter letter b c

def notContainingA : NegatedLetter where
  before := []
  negation := "not".toList
  gap := [' ']
  verb := "containing"
  after := " a".toList
  known := .word (by decide)
  gap_blank := isGap_space
  opens := Option.any_none
  closes := isWord_space
  space := [' ']
  article := none
  noun := none
  letter := ⟨'a', by decide⟩
  rest := []
  asks := by decide
  space_blank := isGap_space
  article_blank := isGap_of_mem_none
  noun_blank := isGap_of_mem_none
  alone := Option.any_none
  names := rfl

/-- The participle after a negation is no exclusion that is understood: it asks for the letter. -/
theorem parse_not_containing :
    parse "not containing a" = .ok ⟨"not containing a", { containsCharacter := some 'a' }⟩ ∧
      ¬∀ (n : NegatedLetter) (q : String), normalizeChars q.toList = .ok n.toNegatedVerb.text →
        ∃ e, parse q = .error e := by
  have inverted : parse "not containing a" =
      .ok ⟨"not containing a", { containsCharacter := some 'a' }⟩ := by
    rfl
  refine ⟨inverted, fun all => ?_⟩
  obtain ⟨e, refused⟩ := all notContainingA "not containing a" rfl
  rw [inverted] at refused
  cases refused

def doesNotContainTheLetterZ : NegatedLetter where
  before := "words longer than 5 that ".toList
  negation := "does not".toList
  gap := [' ']
  verb := "contain"
  after := " the letter z".toList
  known := .doesNot isGap_space
  gap_blank := isGap_space
  opens := by decide
  closes := isWord_space
  space := [' ']
  article := some [' ']
  noun := some [' ']
  letter := ⟨'z', by decide⟩
  rest := []
  asks := by decide
  space_blank := isGap_space
  article_blank := isGap_of_mem_space
  noun_blank := isGap_of_mem_space
  alone := Option.any_none
  names := rfl

theorem parse_does_not_contain :
    normalizeChars "Words longer than 5 that does not contain the letter Z".toList =
        .ok doesNotContainTheLetterZ.toNegatedVerb.text ∧
      ∃ e, parse "Words longer than 5 that does not contain the letter Z" = .error e := by
  have normal : normalizeChars "Words longer than 5 that does not contain the letter Z".toList =
      .ok doesNotContainTheLetterZ.toNegatedVerb.text := by
    rfl
  exact ⟨normal, (parse_negatedLetter doesNotContainTheLetterZ normal).1 (by decide)⟩

end Query
end TextCatalog
