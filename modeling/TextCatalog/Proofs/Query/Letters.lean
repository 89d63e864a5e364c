import TextCatalog.Proofs.Pattern.Occurrences
import TextCatalog.Proofs.Query.Exclusion
import TextCatalog.Proofs.Query.Position

/-!
# TextCatalog.Proofs.Query.Letters

Which letter a text asks for, by position or by name.

* `letterPhrase_shape`, `letterPhrase_isApart` — the texts that ask for a letter by name, and that
  none of them begins inside another one.
* `IsLastOrdinal`, `HasEntry` — what the last ordinal phrase says, and the letter that it names.
* `LetterChoice`, `run_letters_iff` — the choice of the two stages together: a position that names a
  letter goes first, a letter of the alphabet that there is not is refused, and otherwise the name
  that starts furthest on counts.
-/

namespace TextCatalog
namespace Query

open Pattern Text

variable {prev : Option Char} {s rest : List Char} {xs : List (List Char)} {c : Char}

/-! ## Letters by name -/

theorem letterVerb_of_spells (h : (oneOf (inflected "contain") [inflected "include",
    Pattern.text "has", Pattern.text "with", Pattern.text "having"]).Spells prev s rest xs) :
    (∃ v ∈ letterVerbs, s = v.toList) ∧ xs = [] := by
  have endings : ∀ base ∈ ["contain", "include"], ∀ ending ∈ ["", "s", "ing"],
      base ++ ending ∈ letterVerbs := by
    decide
  have bases : ∀ base ∈ ["contain", "include"], (inflected base).Spells prev s rest xs →
      (∃ v ∈ letterVerbs, s = v.toList) ∧ xs = [] := by
    rintro base mem ⟨_, _, _, _, rfl, rfl, ⟨rfl, rfl⟩, ending | ⟨rfl, rfl⟩⟩
    · obtain ⟨⟨w, listed, rfl⟩, rfl⟩ := spells_oneWord_iff.mp ending
      exact ⟨⟨base ++ w, endings base mem w (List.mem_cons_of_mem _ listed),
        String.toList_append.symm⟩, rfl⟩
    · refine ⟨⟨base ++ "", endings base mem "" List.mem_cons_self, ?_⟩, rfl⟩
      rw [String.toList_append]
      rfl
  obtain ⟨q, mem, spells⟩ := spells_oneOf_iff.mp h
  simp only [List.mem_cons, List.not_mem_nil, or_false] at mem
  rcases mem with rfl | rfl | rfl | rfl | rfl
  · exact bases "contain" (by decide) spells
  · exact bases "include" (by decide) spells
  · exact ⟨⟨"has", by decide, spells.1⟩, spells.2⟩
  · exact ⟨⟨"with", by decide, spells.1⟩, spells.2⟩
  · exact ⟨⟨"having", by decide, spells.1⟩, spells.2⟩

theorem wordText_of_spells {w : String}
    (h : (maybe (Pattern.text w ++ blanks)).Spells prev s rest xs) :
    (∃ gap, s = wordText w gap ∧ ∀ g ∈ gap, IsGap g) ∧ xs = [] := by
  rcases h with ⟨_, gap, _, _, rfl, rfl, ⟨rfl, rfl⟩, space⟩ | ⟨rfl, rfl⟩
  · obtain ⟨⟨blank, _⟩, rfl⟩ := spells_blanks_iff.mp space
    refine ⟨⟨some gap, rfl, ?_⟩, rfl⟩
    rintro g ⟨⟩
    exact blank
  · exact ⟨⟨none, rfl, isGap_of_mem_none⟩, rfl⟩

/-- A verb, perhaps an article and a noun, and a letter that stands alone. -/
theorem letterPhrase_shape (h : letterPhrase.Spells prev s rest xs) :
    ∃ verb ∈ letterVerbs, ∃ (space : List Char) (article noun : Option (List Char)) (c : Letter),
      IsGap space ∧ (∀ g ∈ article, IsGap g) ∧ (∀ g ∈ noun, IsGap g) ∧
        rest.head?.any isWord = false ∧ xs = [[c.val]] ∧
        s = verb.toList ++ (space ++ (wordText "the" article ++
          (wordText "letter" noun ++ [c.val]))) := by
  obtain ⟨_, _, _, _, rfl, rfl, h, ⟨rfl, closes⟩, rfl⟩ := h
  obtain ⟨_, _, _, _, rfl, rfl, h, _, ⟨⟨c, rfl, latin⟩, rfl⟩, rfl⟩ := h
  obtain ⟨_, _, _, _, rfl, rfl, h, nouns⟩ := h
  obtain ⟨_, _, _, _, rfl, rfl, h, articles⟩ := h
  obtain ⟨_, space, _, _, rfl, rfl, ⟨_, _, _, _, rfl, rfl, ⟨⟨rfl, _⟩, rfl⟩, verbs⟩, spaces⟩ := h
  obtain ⟨⟨verb, mem, rfl⟩, rfl⟩ := letterVerb_of_spells verbs
  obtain ⟨⟨blank, _⟩, rfl⟩ := spells_blanks_iff.mp spaces
  obtain ⟨⟨article, rfl, article_blank⟩, rfl⟩ := wordText_of_spells articles
  obtain ⟨⟨noun, rfl, noun_blank⟩, rfl⟩ := wordText_of_spells nouns
  obtain ⟨low, high⟩ := Bool.and_eq_true_iff.mp latin
  have low := of_decide_eq_true low
  have high := of_decide_eq_true high
  have alone : rest.head?.any isWord = false := by
    rw [lastOf_append] at closes
    refine Bool.eq_false_iff.mpr fun word => closes ?_
    rw [word]
    exact isWord_of_latin low high
  refine ⟨verb, mem, space, article, noun, ⟨c, low, high⟩, blank, article_blank, noun_blank, alone,
    rfl, ?_⟩
  simp only [List.append_assoc, List.append_nil, List.nil_append]

theorem scan_wordText {p : Pattern} (starts : p.StartsWords) {w : String} (word : IsWord w.toList)
    (avoids : p.Avoids w.toList) {gap : Option (List Char)} (blank : ∀ g ∈ gap, IsGap g) :
    p.scan prev 0 (wordText w gap ++ rest) = p.scan (lastOf prev (wordText w gap)) 0 rest := by
  cases gap with
  | none => rfl
  | some g =>
    have space := blank g rfl
    rw [wordText, List.append_assoc, scan_word starts word avoids (head?_gap_append space rest),
      scan_others starts (isWord_of_gap space), lastOf_append]

theorem letterPhrase_isApart : letterPhrase.IsApart := by
  intro prev d t rest xs spells
  obtain ⟨verb, mem, space, article, noun, c, blank, article_blank, noun_blank, alone, _, text⟩ :=
    letterPhrase_shape spells
  have starts := letterPhrase_plain.words
  have name : letterPhrase.Avoids [c.val] := by
    have long : ∀ v ∈ letterPhrase.leads, 2 ≤ v.length := by decide
    intro v lead begins
    have short := begins.length_le
    have := long v lead
    rw [List.length_singleton] at short
    omega
  have word := letterVerbs_isWord verb mem
  cases letters : verb.toList with
  | nil => exact absurd letters word.1
  | cons _ v =>
    rw [letters] at text word
    rw [List.cons_append] at text
    cases text
    simp only [List.append_assoc]
    rw [scan_inside starts (word.2 d List.mem_cons_self)
        (fun e inside => word.2 e (List.mem_cons_of_mem d inside)),
      scan_others starts (isWord_of_gap blank),
      scan_wordText starts (by decide) (by decide) article_blank,
      scan_wordText starts (by decide) (by decide) noun_blank,
      scan_word starts (letter_isWord c) name alone]
    simp only [lastOf_append]

/-- The letter that is named furthest on in the text. -/
def IsLastNamed (s : List Char) (c : Char) : Prop :=
  ∃ m, letterPhrase.IsLastIn none s m ∧ m.capture 0 = [c]

theorem namedOf_eq_some_iff : namedOf s = some c ↔ IsLastNamed s c := by
  rw [namedOf_eq, Option.bind_eq_some_iff]
  refine exists_congr fun m => ?_
  rw [findLast?_eq_some_iff letterPhrase_isApart rfl]
  refine and_congr_right fun last => ?_
  obtain ⟨d, _, _, letter⟩ :=
    letter_of_findLast? ((findLast?_eq_some_iff letterPhrase_isApart rfl).mpr last)
  rw [letter, List.head?_cons, Option.some_inj, List.singleton_inj]

theorem namedOf_eq_none_iff : namedOf s = none ↔ letterPhrase.IsNowhereIn none s := by
  rw [namedOf_eq, ← findLast?_eq_none_iff letterPhrase_isApart rfl, Option.bind_eq_none_iff]
  constructor
  · intro unnamed
    refine Option.eq_none_iff_forall_ne_some.mpr fun m last => ?_
    obtain ⟨c, _, _, letter⟩ := letter_of_findLast? last
    have missed := unnamed m last
    rw [letter] at missed
    cases missed
  · intro missed m last
    rw [missed] at last
    cases last

/-! ## Letters by position -/

/-- What a match of the ordinal phrase says. -/
structure SaysOrdinal (m : Match) (r : OrdinalRequest) : Prop where
  ordinal : m.capture 0 = r.ordinal
  kind : m.capture 1 = r.kind.word.toList
  scope : m.capture 2 = "alphabet".toList ↔ r.ofAlphabet = true

/-- What the last ordinal phrase says. The phrases before it are not looked at. -/
def IsLastOrdinal (s : List Char) (r : OrdinalRequest) : Prop :=
  ∃ m, ordinalPhrase.findLast? s = some m ∧ SaysOrdinal m r

/-- The letter stands in the table of its kind where the ordinal says. -/
def HasEntry (r : OrdinalRequest) (c : Char) : Prop :=
  ∃ n, HasRank r.ordinal (n + 1) ∧ r.kind.table[n]? = some c

/-- No ordinal phrase, or a last one that names no letter and is not of the alphabet. -/
def IsUnplaced (s : List Char) : Prop :=
  ordinalPhrase.findLast? s = none ∨ ∃ r, IsLastOrdinal s r ∧ r.ofAlphabet = false ∧
    (r.kind = .letter ∨ ∀ c, ¬HasEntry r c)

theorem LetterKind.ofWord?_eq_some_iff {w : List Char} {kind : LetterKind} :
    LetterKind.ofWord? w = some kind ↔ w = kind.word.toList := by
  constructor
  · intro known
    unfold LetterKind.ofWord? at known
    split_ifs at known with isVowel isConsonant isLetter
    · cases known
      exact isVowel
    · cases known
      exact isConsonant
    · cases known
      exact isLetter
  · rintro rfl
    cases kind <;> decide

theorem ofMatch?_eq_some_iff {m : Match} {r : OrdinalRequest} :
    OrdinalRequest.ofMatch? m = some r ↔ SaysOrdinal m r := by
  obtain ⟨ordinal, kind, ofAlphabet⟩ := r
  simp only [OrdinalRequest.ofMatch?, Option.map_eq_some_iff, LetterKind.ofWord?_eq_some_iff]
  constructor
  · rintro ⟨kind, same, ⟨⟩⟩
    exact ⟨rfl, same, beq_iff_eq.symm⟩
  · rintro ⟨rfl, same, scope⟩
    refine ⟨kind, same, ?_⟩
    rw [Bool.eq_iff_iff.mpr (beq_iff_eq.trans scope)]

theorem request_eq_some_iff {r : OrdinalRequest} :
    (ordinalPhrase.findLast? s).bind OrdinalRequest.ofMatch? = some r ↔ IsLastOrdinal s r := by
  simp only [Option.bind_eq_some_iff, ofMatch?_eq_some_iff, IsLastOrdinal]

theorem exists_isLastOrdinal {m : Match} (found : ordinalPhrase.findLast? s = some m) :
    ∃ r, IsLastOrdinal s r := by
  obtain ⟨ordinal, _, kind, scope, captures⟩ := ordinal_of_findLast? found
  refine ⟨⟨ordinal, kind, m.capture 2 == "alphabet".toList⟩, m, found, ?_, ?_, beq_iff_eq.symm⟩
  · rw [Match.capture, captures]
    rfl
  · rw [Match.capture, captures]
    rfl

theorem IsLastOrdinal.isOrdinal {r : OrdinalRequest} (last : IsLastOrdinal s r) :
    IsOrdinal r.ordinal := by
  obtain ⟨m, found, said⟩ := last
  obtain ⟨ordinal, known, _, _, captures⟩ := ordinal_of_findLast? found
  rw [← said.ordinal, Match.capture, captures]
  exact known

theorem letterAt?_eq_some_iff {r : OrdinalRequest} (last : IsLastOrdinal s r) :
    r.kind.letterAt? (positionOf? r.ordinal) = some c ↔ HasEntry r c :=
  letterAt?_positionOf? last.isOrdinal

theorem letterAt?_eq_none {r : OrdinalRequest} (last : IsLastOrdinal s r)
    (missing : ∀ c, ¬HasEntry r c) : r.kind.letterAt? (positionOf? r.ordinal) = none :=
  Option.eq_none_iff_forall_ne_some.mpr fun c found =>
    missing c ((letterAt?_eq_some_iff last).mp found)

theorem positionedOf_of_last {r : OrdinalRequest} (last : IsLastOrdinal s r) :
    positionedOf s = (r.apply Filter.empty).map (·.containsCharacter) := by
  rw [positionedOf, readOrdinal, request_eq_some_iff.mpr last]

/-! ## Both stages -/

/-- The letter that a text asks for, or none, or why it is refused. -/
inductive LetterChoice (s : List Char) : Except QueryError (Option Char) → Prop where
  | refused {r : OrdinalRequest} (last : IsLastOrdinal s r) (scope : r.ofAlphabet = true)
    (missing : ∀ c, ¬HasEntry r c) :
    LetterChoice s (.error (.noSuchOrdinal (String.ofList r.ordinal) r.kind.table.length))
  | position {r : OrdinalRequest} {c : Char} (last : IsLastOrdinal s r)
    (scope : r.kind = .letter → r.ofAlphabet = true) (entry : HasEntry r c) :
    LetterChoice s (.ok (some c))
  | named {c : Char} (unplaced : IsUnplaced s) (last : IsLastNamed s c) :
    LetterChoice s (.ok (some c))
  | unset (unplaced : IsUnplaced s) (unnamed : letterPhrase.IsNowhereIn none s) :
    LetterChoice s (.ok none)

theorem positionedOf_of_missing {r : OrdinalRequest} (last : IsLastOrdinal s r)
    (scope : r.ofAlphabet = true) (missing : ∀ c, ¬HasEntry r c) : positionedOf s =
      .error (.noSuchOrdinal (String.ofList r.ordinal) r.kind.table.length) := by
  have asked : ¬(r.kind = .letter ∧ r.ofAlphabet = false) := by simp [scope]
  rw [positionedOf_of_last last, OrdinalRequest.apply, if_neg asked,
    letterAt?_eq_none last missing]
  simp only [scope, if_true]
  rfl

theorem positionedOf_of_entry {r : OrdinalRequest} (last : IsLastOrdinal s r)
    (scope : r.kind = .letter → r.ofAlphabet = true) (entry : HasEntry r c) :
    positionedOf s = .ok (some c) := by
  have asked : ¬(r.kind = .letter ∧ r.ofAlphabet = false) := by
    rintro ⟨letter, unscoped⟩
    rw [scope letter] at unscoped
    cases unscoped
  rw [positionedOf_of_last last, OrdinalRequest.apply, if_neg asked,
    (letterAt?_eq_some_iff last).mpr entry]
  rfl

theorem positionedOf_of_unplaced (unplaced : IsUnplaced s) : positionedOf s = .ok none := by
  rcases unplaced with missed | ⟨r, last, unscoped, passed⟩
  · rw [positionedOf, readOrdinal, missed]
    rfl
  · rw [positionedOf_of_last last, OrdinalRequest.apply]
    split
    · rfl
    · rename_i asked
      rcases passed with letter | missing
      · exact absurd ⟨letter, unscoped⟩ asked
      · rw [letterAt?_eq_none last missing]
        simp only [unscoped]
        rfl

/-- A position goes before a name. -/
def letterOf (s : List Char) : Except QueryError (Option Char) :=
  (positionedOf s).map fun c => c.or (namedOf s)

theorem LetterChoice.eq {x : Except QueryError (Option Char)} (h : LetterChoice s x) :
    letterOf s = x := by
  cases h with
  | refused last scope missing => rw [letterOf, positionedOf_of_missing last scope missing]; rfl
  | position last scope entry => rw [letterOf, positionedOf_of_entry last scope entry]; rfl
  | named unplaced last =>
    rw [letterOf, positionedOf_of_unplaced unplaced, namedOf_eq_some_iff.mpr last]
    rfl
  | unset unplaced unnamed =>
    rw [letterOf, positionedOf_of_unplaced unplaced, namedOf_eq_none_iff.mpr unnamed]
    rfl

theorem exists_letterChoice_of_unplaced (unplaced : IsUnplaced s) : ∃ x, LetterChoice s x := by
  cases named : namedOf s with
  | none => exact ⟨_, .unset unplaced (namedOf_eq_none_iff.mp named)⟩
  | some c => exact ⟨_, .named unplaced (namedOf_eq_some_iff.mp named)⟩

theorem exists_letterChoice (s : List Char) : ∃ x, LetterChoice s x := by
  cases found : ordinalPhrase.findLast? s with
  | none => exact exists_letterChoice_of_unplaced (.inl found)
  | some m =>
    obtain ⟨r, last⟩ := exists_isLastOrdinal found
    by_cases entry : ∃ c, HasEntry r c
    · obtain ⟨c, entry⟩ := entry
      by_cases scope : r.kind = .letter → r.ofAlphabet = true
      · exact ⟨_, .position last scope entry⟩
      · obtain ⟨letter, unscoped⟩ := Classical.not_imp.mp scope
        exact exists_letterChoice_of_unplaced
          (.inr ⟨r, last, Bool.eq_false_iff.mpr unscoped, .inl letter⟩)
    · have missing := not_exists.mp entry
      cases scope : r.ofAlphabet with
      | true => exact ⟨_, .refused last scope missing⟩
      | false => exact exists_letterChoice_of_unplaced (.inr ⟨r, last, scope, .inr missing⟩)

theorem letterChoice_iff {x : Except QueryError (Option Char)} :
    LetterChoice s x ↔ letterOf s = x := by
  refine ⟨LetterChoice.eq, ?_⟩
  rintro rfl
  obtain ⟨x, choice⟩ := exists_letterChoice s
  rw [choice.eq]
  exact choice

theorem map_letter_inj {f : Filter} {x y : Except QueryError (Option Char)} :
    x.map (fun c => { f with containsCharacter := c }) =
      y.map (fun c => { f with containsCharacter := c }) ↔ x = y := by
  refine ⟨fun same => ?_, fun same => congrArg _ same⟩
  cases x with
  | error e =>
    cases y with
    | error e' => cases same; rfl
    | ok c' => cases same
  | ok c =>
    cases y with
    | error e' => cases same
    | ok c' => cases same; rfl

theorem run_letters (s : List Char) {f : Filter} (unset : f.containsCharacter = none) :
    Stage.run [.ordinalLetter, .namedLetter] s f =
      (letterOf s).map fun c => { f with containsCharacter := c } := by
  simp only [Stage.run, Stage.apply, readOrdinal_of_unset unset, letterOf]
  cases positionedOf s with
  | error e => rfl
  | ok c => exact congrArg Except.ok (readLetter_eq s _)

/--
From a filter without a letter the two stages make the choice of the text, of which there is always
exactly one, and change nothing else. A text is refused only as one that cannot be read.
-/
theorem run_letters_iff (s : List Char) {f : Filter} (unset : f.containsCharacter = none) :
    (∃ x, LetterChoice s x) ∧
    (∀ x, Stage.run [.ordinalLetter, .namedLetter] s f =
        x.map (fun c => { f with containsCharacter := c }) ↔ LetterChoice s x) ∧
    ∀ e, Stage.run [.ordinalLetter, .namedLetter] s f = .error e → e.kind = .unparseable := by
  refine ⟨exists_letterChoice s, fun x => ?_, fun e refused => ?_⟩
  · rw [run_letters s unset, map_letter_inj, letterChoice_iff]
  · obtain ⟨x, choice⟩ := exists_letterChoice s
    rw [run_letters s unset, choice.eq] at refused
    cases choice with
    | refused last scope missing =>
      cases refused
      rfl
    | _ => cases refused

/-- There is no ninth vowel, and the first is passed over; the last ordinal is past the counts. -/
theorem run_letters_iff_words :
    Filter.empty.containsCharacter = none ∧
      LetterChoice "first vowel or 9th vowel, has b or includes q".toList (.ok (some 'q')) ∧
      LetterChoice "has a, 18446744073709551617th letter of alphabet".toList
        (.error (.noSuchOrdinal "18446744073709551617th" 26)) := by
  have unset : Filter.empty.containsCharacter = none := rfl
  exact ⟨unset, ((run_letters_iff _ unset).2.1 _).mp rfl, ((run_letters_iff _ unset).2.1 _).mp rfl⟩

end Query
end TextCatalog
