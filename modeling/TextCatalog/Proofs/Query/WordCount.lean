import TextCatalog.Proofs.Query.ClauseMatch
import TextCatalog.Proofs.Query.Phrase
import TextCatalog.Query.Stage

/-!
# TextCatalog.Proofs.Query.WordCount

The count of words that a text asks for, read off its words one by one.

* `WordRun`, `wordRuns` — the words of a text, each with what stands before it.
* `leadsToNoun`, `countIn` — the first number word that is linked to a noun after it.
* `leadsToNoun_of_repeats`, `repeats_of_leadsToNoun` — the filler of the phrase is such a chain.
* `countIn_of_matchAt`, `matchAt_ne_none` — where the phrase is found, it captures that number word,
  and there is no such word where it is not found.
* `apply_wordCount` — the stage sets that count, on any text.
-/

namespace TextCatalog
namespace Query

open Pattern Text

variable {prev : Option Char} {s rest gap w : List Char} {xs : List (List Char)}

/-! ## Words one by one -/

/-- A word of a text, with what stands between it and the word before. -/
structure WordRun where
  gap : List Char
  word : List Char
  deriving DecidableEq

/-- The maximal runs of word characters. -/
def wordRuns : List Char → List WordRun
  | [] => []
  | c :: cs =>
    if isWord c then
      if cs.head?.any isWord then
        match wordRuns cs with
        | [] => [⟨[], [c]⟩]
        | r :: rs => ⟨[], c :: r.word⟩ :: rs
      else ⟨[], [c]⟩ :: wordRuns cs
    else
      match wordRuns cs with
      | [] => []
      | r :: rs => ⟨c :: r.gap, r.word⟩ :: rs

theorem wordRuns_word (word : IsWord w) (stop : rest.head?.any isWord = false) :
    wordRuns (w ++ rest) = ⟨[], w⟩ :: wordRuns rest := by
  obtain ⟨ne, all⟩ := word
  induction w with
  | nil => exact absurd rfl ne
  | cons c w ih =>
    have first := all c List.mem_cons_self
    cases w with
    | nil =>
      rw [List.cons_append, List.nil_append, wordRuns, if_pos first, stop]
      rfl
    | cons d w =>
      have second : ((d :: w) ++ rest).head?.any isWord = true := all d (by simp)
      rw [List.cons_append, wordRuns, if_pos first, if_pos second,
        ih (List.cons_ne_nil d w) fun x mem => all x (List.mem_cons_of_mem c mem)]

theorem wordRuns_append (other : ∀ c ∈ gap, isWord c = false) (word : IsWord w)
    (stop : rest.head?.any isWord = false) :
    wordRuns (gap ++ (w ++ rest)) = ⟨gap, w⟩ :: wordRuns rest := by
  induction gap with
  | nil => exact wordRuns_word word stop
  | cons c gap ih =>
    rw [List.cons_append, wordRuns, other c List.mem_cons_self,
      ih fun x mem => other x (List.mem_cons_of_mem c mem)]
    rfl

/-- A text without a word, or one with a first word and a text after it. -/
theorem wordRuns_cases (s : List Char) :
    (∀ c ∈ s, isWord c = false) ∧ wordRuns s = [] ∨
      ∃ gap w rest, s = gap ++ (w ++ rest) ∧ (∀ c ∈ gap, isWord c = false) ∧ IsWord w ∧
        rest.head?.any isWord = false ∧ wordRuns s = ⟨gap, w⟩ :: wordRuns rest := by
  induction s with
  | nil => exact .inl ⟨by rintro c ⟨⟩, rfl⟩
  | cons c s ih =>
    cases first : isWord c with
    | true =>
      have text : c :: s = (c :: s).takeWhile isWord ++ (c :: s).dropWhile isWord :=
        List.takeWhile_append_dropWhile.symm
      have word : IsWord ((c :: s).takeWhile isWord) := by
        refine ⟨?_, fun d mem => List.all_eq_true.mp List.all_takeWhile d mem⟩
        rw [List.takeWhile_cons_of_pos first]
        exact List.cons_ne_nil _ _
      have stop : ((c :: s).dropWhile isWord).head?.any isWord = false := by
        have stop := List.head?_dropWhile_not isWord (c :: s)
        cases head : ((c :: s).dropWhile isWord).head? with
        | none => rfl
        | some d =>
          rw [head] at stop
          exact stop
      exact .inr ⟨[], _, _, text, by rintro d ⟨⟩, word, stop,
        (congrArg wordRuns text).trans (wordRuns_word word stop)⟩
    | false =>
      rcases ih with ⟨other, none_left⟩ | ⟨gap, w, rest, rfl, other, word, stop, _⟩
      · refine .inl ⟨List.forall_mem_cons.mpr ⟨first, other⟩, ?_⟩
        rw [wordRuns, first, none_left]
        rfl
      · have other : ∀ d ∈ c :: gap, isWord d = false := List.forall_mem_cons.mpr ⟨first, other⟩
        exact .inr ⟨c :: gap, w, rest, rfl, other, word, stop, wordRuns_append other word stop⟩

/-! ## The count -/

def countNouns : List String := ["word", "words", "string", "strings", "text", "texts"]

def CountWord.all : List CountWord :=
  [one, single, double, triple, two, three, four, five, six, seven, eight, nine, ten]

def CountWord.ofWord? (w : List Char) : Option CountWord := all.find? fun k => k.word.toList == w

namespace WordRun

/-- Nothing but blanks stands between the word and the one before it. -/
def isLinked (r : WordRun) : Bool := decide (IsGap r.gap)

def isNoun (r : WordRun) : Bool := countNouns.any fun v => v.toList == r.word

end WordRun

/-- One of the words that are linked on from here is a noun. -/
def leadsToNoun (rs : List WordRun) : Bool := (rs.takeWhile WordRun.isLinked).any WordRun.isNoun

/-- The first number word from which the words after it lead to a noun. -/
def countIn : List WordRun → Option CountWord
  | [] => none
  | r :: rs =>
    match CountWord.ofWord? r.word with
    | some k => if leadsToNoun rs then some k else countIn rs
    | none => countIn rs

theorem CountWord.ofWord?_word (k : CountWord) : ofWord? k.word.toList = some k := by
  cases k <;> decide

theorem CountWord.word_of_ofWord? {k : CountWord} (h : ofWord? w = some k) : k.word.toList = w :=
  eq_of_beq (List.find?_some (p := fun k : CountWord => k.word.toList == w) h)

theorem exists_countWord {v : String} (h : v ∈ countWords) : ∃ k : CountWord, v = k.word := by
  have known : ∀ v ∈ countWords, v ∈ CountWord.all.map CountWord.word := by decide
  obtain ⟨k, _, same⟩ := List.mem_map.mp (known v h)
  exact ⟨k, same.symm⟩

theorem countWord_isWord (k : CountWord) : IsWord k.word.toList := by
  cases k <;> decide

theorem countWord_mem (k : CountWord) : k.word ∈ countWords := by
  cases k <;> decide

theorem leadsToNoun_cons (r : WordRun) (rs : List WordRun) :
    leadsToNoun (r :: rs) = (r.isLinked && (r.isNoun || leadsToNoun rs)) := by
  cases linked : r.isLinked <;> simp [leadsToNoun, linked]

theorem countIn_word (k : CountWord) (gap : List Char) (rs : List WordRun) :
    countIn (⟨gap, k.word.toList⟩ :: rs) = if leadsToNoun rs then some k else countIn rs := by
  rw [countIn, k.ofWord?_word]

/-! ## The filler of the phrase -/

theorem isWord_of_gap (h : IsGap gap) : ∀ c ∈ gap, isWord c = false :=
  fun c mem => isWord_of_isBlank (h.2 c mem)

theorem countNouns_isWord : ∀ v ∈ countNouns, IsWord v.toList := by decide

/-- Blanks and words in turn, and then blanks and a noun. -/
theorem leadsToNoun_of_repeats {filler : List Char}
    (h : Repeats (blanks ++ Pattern.word).Spells prev filler s xs) {v : String}
    (text : s = gap ++ (v.toList ++ rest)) (blank : IsGap gap) (noun : v ∈ countNouns)
    (stop : rest.head?.any isWord = false) :
    (filler ++ s).head?.any isWord = false ∧ leadsToNoun (wordRuns (filler ++ s)) = true := by
  induction h with
  | none =>
    subst text
    have linked : WordRun.isLinked ⟨gap, v.toList⟩ = true := decide_eq_true blank
    have isNoun : WordRun.isNoun ⟨gap, v.toList⟩ = true :=
      List.any_eq_true.mpr ⟨v, noun, beq_self_eq_true _⟩
    refine ⟨head?_gap_append blank _, ?_⟩
    rw [List.nil_append, wordRuns_append (isWord_of_gap blank) (countNouns_isWord v noun) stop,
      leadsToNoun_cons, linked, isNoun]
    rfl
  | more ne first others ih =>
    obtain ⟨space, w, _, _, rfl, rfl, spells, ⟨some_left, all, ends⟩, _⟩ := first
    obtain ⟨⟨spaced, _⟩, _⟩ := spells_blanks_iff.mp spells
    have linked : WordRun.isLinked ⟨space, w⟩ = true := decide_eq_true spaced
    obtain ⟨opens, later⟩ := ih text
    rw [List.append_assoc, List.append_assoc]
    refine ⟨head?_gap_append spaced _, ?_⟩
    rw [wordRuns_append (isWord_of_gap spaced) ⟨some_left, all⟩ opens, leadsToNoun_cons, linked,
      later, Bool.or_true]
    rfl

theorem repeats_of_leadsToNoun (s : List Char) (h : leadsToNoun (wordRuns s) = true)
    (prev : Option Char) : ∃ filler gap v rest, s = filler ++ (gap ++ (String.toList v ++ rest)) ∧
      Repeats (blanks ++ Pattern.word).Spells prev filler (gap ++ (v.toList ++ rest)) [] ∧
      IsGap gap ∧ v ∈ countNouns ∧ rest.head?.any isWord = false := by
  induction runs : wordRuns s generalizing s prev with
  | nil =>
    rw [runs] at h
    cases h
  | cons r rs ih =>
    rcases wordRuns_cases s with ⟨_, none_left⟩ | ⟨gap, w, rest, rfl, other, word, stop, same⟩
    · rw [runs] at none_left
      cases none_left
    rw [same] at runs h
    cases runs
    rw [leadsToNoun_cons, Bool.and_eq_true, Bool.or_eq_true] at h
    obtain ⟨linked, noun | later⟩ := h
    · obtain ⟨v, listed, found⟩ := List.any_eq_true.mp noun
      obtain rfl := eq_of_beq found
      exact ⟨[], gap, v, rest, rfl, .none, of_decide_eq_true linked, listed, stop⟩
    · obtain ⟨filler, gap', v, rest', rfl, spells, blank, listed, stop'⟩ :=
        ih rest later (lastOf prev (gap ++ w)) rfl
      refine ⟨gap ++ w ++ filler, gap', v, rest', ?_, ?_, blank, listed, stop'⟩
      · simp only [List.append_assoc]
      · have first : (blanks ++ Pattern.word).Spells prev (gap ++ w)
            (filler ++ (gap' ++ (v.toList ++ rest'))) [] :=
          ⟨gap, w, [], [], rfl, rfl,
            spells_blanks_iff.mpr ⟨⟨of_decide_eq_true linked, head_isBlank word _⟩, rfl⟩,
            ⟨word.1, word.2, stop_of_head stop⟩, rfl⟩
        exact .more (List.append_ne_nil_of_right_ne_nil gap word.1) first spells

/-! ## The phrase -/

theorem spells_countNoun_iff : (oneWord "word" ["string", "text"] ++
    maybe (Pattern.text "s")).Spells prev s rest xs ↔
      (∃ v ∈ countNouns, s = v.toList) ∧ xs = [] := by
  have listed : ∀ v ∈ ["word", "string", "text"], v ++ "s" ∈ countNouns ∧ v ∈ countNouns := by
    decide
  constructor
  · rintro ⟨_, _, _, _, rfl, rfl, base, ⟨rfl, rfl⟩ | ⟨rfl, rfl⟩⟩
    · obtain ⟨⟨v, mem, rfl⟩, rfl⟩ := spells_oneWord_iff.mp base
      exact ⟨⟨v ++ "s", (listed v mem).1, (String.toList_append).symm⟩, rfl⟩
    · obtain ⟨⟨v, mem, rfl⟩, rfl⟩ := spells_oneWord_iff.mp base
      exact ⟨⟨v, (listed v mem).2, List.append_nil _⟩, rfl⟩
  · rintro ⟨⟨v, mem, rfl⟩, rfl⟩
    have split : ∀ v ∈ countNouns, ∃ base ∈ ["word", "string", "text"],
        v.toList = base.toList ++ "s".toList ∨ v.toList = base.toList ++ [] := by
      decide
    obtain ⟨base, known, plural | singular⟩ := split v mem
    · exact ⟨base.toList, "s".toList, [], [], plural, rfl,
        spells_oneWord_iff.mpr ⟨⟨base, known, rfl⟩, rfl⟩, .inl ⟨rfl, rfl⟩⟩
    · exact ⟨base.toList, [], [], [], singular, rfl,
        spells_oneWord_iff.mpr ⟨⟨base, known, rfl⟩, rfl⟩, .inr ⟨rfl, rfl⟩⟩

/-- What the phrase captures is the first number word that leads to a noun: it is the word that the
match starts with, or the one after `all`. -/
theorem countIn_of_spells (h : wordCountPhrase.Spells prev s rest xs) :
    ∃ k : CountWord, xs = [k.word.toList] ∧ countIn (wordRuns (s ++ rest)) = some k := by
  obtain ⟨_, _, _, _, rfl, rfl, h, ⟨⟨rfl, closes⟩, rfl⟩⟩ := h
  obtain ⟨_, plural, _, _, rfl, rfl, h, plurals⟩ := h
  obtain ⟨_, noun, _, _, rfl, rfl, h, nouns⟩ := h
  obtain ⟨_, gap, _, _, rfl, rfl, h, space⟩ := h
  obtain ⟨_, filler, _, _, rfl, rfl, h, many⟩ := h
  obtain ⟨_, _, _, _, rfl, rfl, ⟨_, opening, _, _, rfl, rfl, ⟨⟨rfl, _⟩, rfl⟩, all⟩, _, number,
    rfl⟩ := h
  obtain ⟨⟨w, mem, rfl⟩, rfl⟩ := spells_oneWord_iff.mp number
  obtain ⟨⟨v, listed, same⟩, none_left⟩ :=
    spells_countNoun_iff.mp ⟨_, _, _, _, rfl, rfl, nouns, plurals⟩
  obtain ⟨⟨blank, _⟩, rfl⟩ := spells_blanks_iff.mp space
  obtain rfl := Spells.silent rfl many
  obtain rfl := Spells.silent rfl all
  obtain ⟨k, rfl⟩ := exists_countWord mem
  refine ⟨k, by simp [none_left], ?_⟩
  simp only [List.append_assoc, List.append_nil, List.nil_append] at *
  have stop : rest.head?.any isWord = false := by
    rw [same] at closes
    simp only [lastOf_append, last_isWord (countNouns_isWord v listed)] at closes
    exact Bool.eq_false_iff.mpr closes.symm
  have text : gap ++ (noun ++ (plural ++ rest)) = gap ++ (v.toList ++ rest) := by
    rw [← same, List.append_assoc]
  obtain ⟨opens, leads⟩ := leadsToNoun_of_repeats many text blank listed stop
  have word := countWord_isWord k
  rcases all with ⟨_, space, _, _, rfl, _, ⟨rfl, _⟩, blanks⟩ | ⟨rfl, _⟩
  · obtain ⟨⟨spaced, _⟩, _⟩ := spells_blanks_iff.mp blanks
    have noCount : CountWord.ofWord? "all".toList = none := by decide
    rw [List.append_assoc, wordRuns_word (by decide) (head?_gap_append spaced _), countIn, noCount,
      wordRuns_append (isWord_of_gap spaced) word opens, countIn_word, if_pos leads]
  · rw [List.nil_append, wordRuns_word word opens, countIn_word, if_pos leads]

/-- A number word that leads to a noun starts a match. -/
theorem exists_spells (k : CountWord) (opens : prev.any isWord = false)
    (leads : leadsToNoun (wordRuns s) = true) :
    ∃ t rest, k.word.toList ++ s = t ++ rest ∧
      wordCountPhrase.Spells prev t rest [k.word.toList] := by
  obtain ⟨filler, gap, v, rest, rfl, many, blank, listed, stop⟩ :=
    repeats_of_leadsToNoun s leads (lastOf prev k.word.toList)
  have number := countWord_isWord k
  have noun := countNouns_isWord v listed
  have spelled : (oneWord "word" ["string", "text"] ++ maybe (Pattern.text "s")).Spells
      (lastOf prev (k.word.toList ++ filler ++ gap)) v.toList rest [] :=
    spells_countNoun_iff.mpr ⟨⟨v, listed, rfl⟩, rfl⟩
  obtain ⟨base, plural, _, _, same, silent, bases, plurals⟩ := spelled
  have start : prev.any isWord ≠
      (k.word.toList ++ (filler ++ (gap ++ (v.toList ++ rest)))).head?.any isWord := by
    rw [opens, head_isWord number]
    decide
  have close : (lastOf prev (k.word.toList ++ filler ++ gap ++ v.toList)).any isWord ≠
      rest.head?.any isWord := by
    rw [stop, lastOf_append, last_isWord noun]
    decide
  have silent := List.append_eq_nil_iff.mp silent.symm
  have h : wordCountPhrase.Spells prev ([] ++ [] ++ k.word.toList ++ filler ++ gap ++ base ++
      plural ++ []) rest ([] ++ [] ++ ([] ++ [k.word.toList]) ++ [] ++ [] ++ [] ++ [] ++ []) := by
    rw [silent.1] at bases
    rw [silent.2] at plurals
    have ink := head_isBlank noun rest
    rw [same] at start close many ink
    simp only [List.append_assoc] at start many ink
    rw [← List.append_assoc] at close
    refine .seq (.seq (.seq (.seq (.seq (.seq (.seq ?_ ?_) (.captured ?_)) ?_) ?_) ?_) ?_) ?_
    · exact ⟨⟨rfl, start⟩, rfl⟩
    · exact .inr ⟨rfl, rfl⟩
    · exact spells_oneWord_iff.mpr ⟨⟨_, countWord_mem k, rfl⟩, rfl⟩
    · exact many
    · exact spells_blanks_iff.mpr ⟨⟨blank, ink⟩, rfl⟩
    · exact bases
    · exact plurals
    · exact ⟨⟨rfl, close⟩, rfl⟩
  refine ⟨k.word.toList ++ (filler ++ (gap ++ v.toList)), rest, ?_, ?_⟩
  · simp only [List.append_assoc]
  · rw [same]
    simpa only [List.append_assoc, List.append_nil, List.nil_append] using h

/-! ## The stage -/

theorem wordCountPhrase_plain : StartsPlainly wordCountPhrase := by decide

theorem numberOf?_countWord (k : CountWord) : numberOf? k.word.toList = some k.value := by
  cases k <;> decide

theorem head?_scan {p : Pattern} {m : Match} (ne : s ≠ []) (h : p.matchAt prev s = some m) :
    (p.scan prev 0 s).head? = some m := by
  cases s with
  | nil => exact absurd rfl ne
  | cons c s =>
    rw [scan, h]
    rfl

theorem matchAt_ne_none (k : CountWord) (opens : prev.any isWord = false)
    (leads : leadsToNoun (wordRuns s) = true) :
    wordCountPhrase.matchAt prev (k.word.toList ++ s) ≠ none := by
  intro missed
  obtain ⟨t, rest, text, spells⟩ := exists_spells k opens leads
  exact matchAt_eq_none_iff.mp missed t rest _ text spells

theorem countIn_of_matchAt {m : Match} (h : wordCountPhrase.matchAt prev s = some m) :
    ∃ k : CountWord, m.captures = [k.word.toList] ∧ countIn (wordRuns s) = some k := by
  obtain ⟨rest, text, spells⟩ := spells_of_matchAt h
  obtain ⟨k, captures, count⟩ := countIn_of_spells spells
  rw [← text] at count
  exact ⟨k, captures, count⟩

/-- Where the phrase is not found, the count is not taken from the word that stands there. -/
theorem countIn_of_missed (opens : prev.any isWord = false) (word : IsWord w)
    (missed : wordCountPhrase.matchAt prev (w ++ rest) = none) (gap : List Char) :
    countIn (⟨gap, w⟩ :: wordRuns rest) = countIn (wordRuns rest) := by
  rw [countIn]
  split
  · rename_i k counted
    obtain rfl : k.word.toList = w := CountWord.word_of_ofWord? counted
    rw [if_neg]
    exact fun leads => matchAt_ne_none k opens leads missed
  · rfl

/-- Past a word the search goes on as the count does. -/
theorem head?_scan_wordRuns (s : List Char) (prev : Option Char)
    (opens : prev.any isWord = false ∨ s.head?.any isWord = false) :
    ((wordCountPhrase.scan prev 0 s).head?).map (·.captures) =
      (countIn (wordRuns s)).map fun k => [k.word.toList] := by
  induction runs : wordRuns s generalizing s prev with
  | nil =>
    rcases wordRuns_cases s with ⟨other, _⟩ | ⟨gap, w, rest, rfl, _, _, _, some_left⟩
    · have passed : wordCountPhrase.scan prev 0 (s ++ []) = _ :=
        scan_others wordCountPhrase_plain.words other []
      rw [List.append_nil] at passed
      rw [passed]
      unfold scan
      rfl
    · rw [runs] at some_left
      cases some_left
  | cons r rs ih =>
    rcases wordRuns_cases s with ⟨_, none_left⟩ | ⟨gap, w, rest, rfl, other, word, stop, same⟩
    · rw [runs] at none_left
      cases none_left
    rw [same] at runs
    cases runs
    have opens : (lastOf prev gap).any isWord = false := by
      cases gap with
      | nil =>
        rcases opens with opens | opens
        · exact opens
        · rw [List.nil_append, head_isWord word] at opens
          cases opens
      | cons c gap =>
        rw [lastOf_of_ne_nil (List.cons_ne_nil c gap)]
        exact other _ (List.getLast_mem _)
    rw [scan_others wordCountPhrase_plain.words other]
    cases found : wordCountPhrase.matchAt (lastOf prev gap) (w ++ rest) with
    | some m =>
      obtain ⟨k, captures, count⟩ := countIn_of_matchAt found
      have ne : w ++ rest ≠ [] := List.append_ne_nil_of_left_ne_nil word.1 rest
      rw [wordRuns_word word stop] at count
      rw [head?_scan ne found, show countIn (⟨gap, w⟩ :: wordRuns rest) = some k from count]
      exact congrArg some captures
    | none =>
      rw [scan_word_of_none wordCountPhrase_plain.words word found,
        countIn_of_missed opens word found]
      exact ih rest _ (.inr stop) rfl

/--
The stage sets the number of the first number word from which blanks and words alone lead to a noun
for what is counted, and leaves the filter as it is where there is none.
-/
theorem apply_wordCount (s : List Char) (f : Filter) : Stage.wordCount.apply s f =
    .ok (match countIn (wordRuns s) with
      | some k => { f with wordCount := some k.value }
      | none => f) := by
  have captures : (wordCountPhrase.find? s).map (·.captures) =
      (countIn (wordRuns s)).map fun k => [k.word.toList] :=
    head?_scan_wordRuns s none (.inl rfl)
  refine congrArg Except.ok ?_
  unfold readWordCount
  cases count : countIn (wordRuns s) with
  | none =>
    rw [count] at captures
    rw [Option.map_eq_none_iff.mp captures]
    rfl
  | some k =>
    rw [count] at captures
    obtain ⟨m, found, captured⟩ := Option.map_eq_some_iff.mp captures
    have number : numberOf? (m.capture 0) = some k.value := by
      rw [Match.capture, captured]
      exact numberOf?_countWord k
    rw [found, Option.bind_some, number]

/-- A hyphen does not lead on to a noun, blanks do. -/
example : countIn (wordRuns "two-word and three long strings".toList) = some .three := by decide

end Query
end TextCatalog
