import TextCatalog.Proofs.Query.Clause

/-!
# TextCatalog.Proofs.Query.ClauseMatch

What each phrase of a query finds in each clause.

* `longerPhrase_prefers` and the others — the clause that a phrase is made for, and its captures.
* `longerPhrase_reads` and the others — that clause and no other.
* `Comparison` — the four families of clauses with one number, as one.
-/

namespace TextCatalog
namespace Query

open Pattern Text

variable {prev : Option Char} {rest w : List Char}

/-! ## Words and blanks -/

theorem head_isBlank (word : IsWord w) (rest : List Char) :
    ∀ c ∈ (w ++ rest).head?, isBlank c = false := by
  obtain ⟨ne, all⟩ := word
  cases w with
  | nil => exact absurd rfl ne
  | cons c w =>
    rintro d ⟨⟩
    exact isBlank_of_isWord (all c List.mem_cons_self)

theorem head_isWord (word : IsWord w) (rest : List Char) :
    (w ++ rest).head?.any isWord = true := by
  obtain ⟨ne, all⟩ := word
  cases w with
  | nil => exact absurd rfl ne
  | cons c w => exact all c List.mem_cons_self

theorem last_isWord (word : IsWord w) (prev : Option Char) :
    (lastOf prev w).any isWord = true := by
  rw [lastOf_of_ne_nil word.1]
  exact word.2 _ (List.getLast_mem word.1)

theorem head?_gap_append {gap : List Char} (h : IsGap gap) (t : List Char) :
    (gap ++ t).head?.any isWord = false := by
  obtain ⟨ne, all⟩ := h
  cases gap with
  | nil => exact absurd rfl ne
  | cons c gap => exact isWord_of_isBlank (all c List.mem_cons_self)

theorem prefers_space (word : IsWord w) (rest : List Char) :
    blanks.Prefers prev [' '] (w ++ rest) [] := by
  refine prefers_run (List.cons_ne_nil _ _) ?_ (head_isBlank word rest)
  intro c mem
  rw [List.mem_singleton.mp mem]
  exact isBlank_space

theorem prefers_word (word : IsWord w) (stop : rest.head?.any isWord = false) :
    Pattern.word.Prefers prev w rest [] :=
  prefers_run word.1 word.2 (stop_of_head stop)

theorem prefers_start (opens : prev.any isWord = false) (word : IsWord w) (rest : List Char) :
    boundary.Prefers prev [] (w ++ rest) [] := by
  refine prefers_boundary ?_
  rw [opens, head_isWord word rest]
  decide

theorem prefers_end (word : IsWord w) (s : List Char) (stop : rest.head?.any isWord = false) :
    boundary.Prefers (lastOf prev (s ++ w)) [] rest [] := by
  refine prefers_boundary ?_
  rw [stop, lastOf_append, last_isWord word]
  decide

/-! ## Lengths -/

theorem comparedTo_prefers (n : Nat) (stop : rest.head?.any isWord = false) :
    comparedTo.Prefers prev (" than ".toList ++ numeral n) rest [numeral n] := by
  have than : IsWord "than".toList := by decide
  have number := numeral_isWord n
  have h : comparedTo.Prefers prev ([' '] ++ [] ++ ("than".toList ++ [' ']) ++ numeral n) rest
      ([] ++ [] ++ ([] ++ []) ++ ([] ++ [numeral n])) := by
    refine .seq (.seq (.seq ?_ ?_) (.maybe (.seq ?_ ?_))) (.capture ?_)
    · exact prefers_space than _
    · exact prefers_skip (fails_of_openers rfl)
    · exact prefers_text "than" _
    · exact prefers_space number rest
    · exact prefers_word number stop
  exact h

theorem compared_prefers {w : String} (word : IsWord w.toList) (others : List Pattern) (n : Nat)
    (opens : prev.any isWord = false) (stop : rest.head?.any isWord = false) :
    (boundary ++ oneOf (text w) others ++ comparedTo).Prefers prev
      (w.toList ++ (" than ".toList ++ numeral n)) rest [numeral n] := by
  have h : (boundary ++ oneOf (text w) others ++ comparedTo).Prefers prev
      ([] ++ w.toList ++ (" than ".toList ++ numeral n)) rest ([] ++ [] ++ [numeral n]) := by
    refine .seq (.seq ?_ (.oneOf ?_ _)) ?_
    · exact prefers_start opens word _
    · exact prefers_text w _
    · exact comparedTo_prefers n stop
  exact h

theorem longerPhrase_prefers (n : Fin counts) (opens : prev.any isWord = false)
    (stop : rest.head?.any isWord = false) :
    longerPhrase.Prefers prev (Clause.longer n).text rest [numeral n] := by
  have longer : IsWord "longer".toList := by decide
  exact compared_prefers longer _ n opens stop

theorem shorterPhrase_prefers (n : Fin counts) (opens : prev.any isWord = false)
    (stop : rest.head?.any isWord = false) :
    shorterPhrase.Prefers prev (Clause.shorter n).text rest [numeral n] := by
  have shorter : IsWord "shorter".toList := by decide
  exact compared_prefers shorter _ n opens stop

theorem betweenPhrase_prefers (n m : Fin counts) (opens : prev.any isWord = false)
    (stop : rest.head?.any isWord = false) :
    betweenPhrase.Prefers prev (Clause.between n m).text rest [numeral n, numeral m] := by
  have between : IsWord "between".toList := by decide
  have and : IsWord "and".toList := by decide
  have low := numeral_isWord n
  have high := numeral_isWord m
  have h : betweenPhrase.Prefers prev ([] ++ "between".toList ++ [' '] ++ numeral n ++ [' '] ++
      "and".toList ++ [' '] ++ numeral m) rest
      ([] ++ [] ++ [] ++ ([] ++ [numeral n]) ++ [] ++ [] ++ [] ++ ([] ++ [numeral m])) := by
    refine .seq (.seq (.seq (.seq (.seq (.seq (.seq ?_ (.oneOf ?_ _)) ?_) (.capture ?_)) ?_)
      (.oneOf ?_ _)) ?_) (.capture ?_)
    · exact prefers_start opens between _
    · exact prefers_text "between" _
    · exact prefers_space low _
    · exact prefers_word low isWord_space
    · exact prefers_space and _
    · exact prefers_text "and" _
    · exact prefers_space high rest
    · exact prefers_word high stop
  simp only [List.append_assoc] at h
  exact h

theorem at_prefers {w : String} (word : IsWord w.toList) (others : List Pattern) (n : Nat)
    (opens : prev.any isWord = false) (stop : rest.head?.any isWord = false) :
    (boundary ++ oneOf (text "at" ++ blanks ++ text w) others ++ blanks ++
      .capture Pattern.word).Prefers prev
      ("at".toList ++ [' '] ++ w.toList ++ [' '] ++ numeral n) rest [numeral n] := by
  have at_ : IsWord "at".toList := by decide
  have number := numeral_isWord n
  have h : (boundary ++ oneOf (text "at" ++ blanks ++ text w) others ++ blanks ++
      .capture Pattern.word).Prefers prev
      ([] ++ ("at".toList ++ [' '] ++ w.toList) ++ [' '] ++ numeral n) rest
      ([] ++ ([] ++ [] ++ []) ++ [] ++ ([] ++ [numeral n])) := by
    refine .seq (.seq (.seq ?_ (.oneOf (.seq (.seq ?_ ?_) ?_) _)) ?_) (.capture ?_)
    · exact prefers_start opens at_ _
    · exact prefers_text "at" _
    · exact prefers_space word _
    · exact prefers_text w _
    · exact prefers_space number rest
    · exact prefers_word number stop
  exact h

theorem atLeastPhrase_prefers (n : Fin counts) (opens : prev.any isWord = false)
    (stop : rest.head?.any isWord = false) :
    atLeastPhrase.Prefers prev (Clause.atLeast n).text rest [numeral n] := by
  have least : IsWord "least".toList := by decide
  exact at_prefers least _ n opens stop

theorem atMostPhrase_prefers (n : Fin counts) (opens : prev.any isWord = false)
    (stop : rest.head?.any isWord = false) :
    atMostPhrase.Prefers prev (Clause.atMost n).text rest [numeral n] := by
  have most : IsWord "most".toList := by decide
  exact at_prefers most _ n opens stop

/-! ## Letters -/

theorem letterPhrase_prefers (c : Letter) (opens : prev.any isWord = false)
    (stop : rest.head?.any isWord = false) :
    letterPhrase.Prefers prev (Clause.letter c).text rest [[c.val]] := by
  have containing : IsWord "containing".toList := by decide
  have the : IsWord "the".toList := by decide
  have letter : IsWord "letter".toList := by decide
  have name := letter_isWord c
  have latin : (CharClass.span 'a' 'z').has c.val = true :=
    Bool.and_eq_true_iff.mpr ⟨decide_eq_true c.2.1, decide_eq_true c.2.2⟩
  have h : letterPhrase.Prefers prev ([] ++ ("contain".toList ++ "ing".toList) ++ [' '] ++
      ("the".toList ++ [' ']) ++ ("letter".toList ++ [' ']) ++ [c.val] ++ []) rest
      ([] ++ ([] ++ []) ++ [] ++ ([] ++ []) ++ ([] ++ []) ++ ([] ++ [[c.val]]) ++ []) := by
    refine .seq (.seq (.seq (.seq (.seq (.seq ?_ (.oneOf (.seq ?_ (.maybe (.right ?_ ?_))) _)) ?_)
      (.maybe (.seq ?_ ?_))) (.maybe (.seq ?_ ?_))) (.capture ?_)) ?_
    · exact prefers_start opens containing _
    · exact prefers_text "contain" _
    · exact fails_of_openers rfl
    · exact prefers_text "ing" _
    · exact prefers_space the _
    · exact prefers_text "the" _
    · exact prefers_space letter _
    · exact prefers_text "letter" _
    · exact prefers_space name rest
    · exact prefers_char latin rest
    · exact prefers_end name _ stop
  exact h

/-! ## What is found in a clause -/

/-- The families of clauses that have one number. -/
inductive Comparison where
  | longer
  | shorter
  | atLeast
  | atMost

namespace Comparison

def phrase : Comparison → Pattern
  | longer => longerPhrase
  | shorter => shorterPhrase
  | atLeast => atLeastPhrase
  | atMost => atMostPhrase

def number? : Comparison → Clause → Option Nat
  | longer => Clause.longer?
  | shorter => Clause.shorter?
  | atLeast => Clause.atLeast?
  | atMost => Clause.atMost?

/-- In a clause of the family the whole of it, with its numeral. -/
def found (k : Comparison) (c : Clause) : List Match :=
  (k.number? c).toList.map fun n => ⟨c.text, [numeral n]⟩

end Comparison

theorem text_ne_nil (c : Clause) : c.text ≠ [] := by
  cases c with
  | words k => cases k <;> exact List.cons_ne_nil _ _
  | _ => exact List.cons_ne_nil _ _

theorem longerPhrase_plain : StartsPlainly longerPhrase := by decide

theorem longerPhrase_reads : Reads longerPhrase (Comparison.found .longer) := by
  intro c prev rest opens stop
  cases c with
  | longer n => exact ⟨_, scan_of_prefers (longerPhrase_prefers n opens stop) (text_ne_nil _)⟩
  | words k => cases k <;> exact scan_clause longerPhrase_plain rfl stop prev
  | _ => exact scan_clause longerPhrase_plain rfl stop prev

theorem shorterPhrase_plain : StartsPlainly shorterPhrase := by decide

theorem shorterPhrase_reads : Reads shorterPhrase (Comparison.found .shorter) := by
  intro c prev rest opens stop
  cases c with
  | shorter n => exact ⟨_, scan_of_prefers (shorterPhrase_prefers n opens stop) (text_ne_nil _)⟩
  | words k => cases k <;> exact scan_clause shorterPhrase_plain rfl stop prev
  | _ => exact scan_clause shorterPhrase_plain rfl stop prev

theorem betweenPhrase_plain : StartsPlainly betweenPhrase := by decide

theorem betweenPhrase_reads : Reads betweenPhrase fun
    | .between n m => [⟨(Clause.between n m).text, [numeral n, numeral m]⟩]
    | _ => [] := by
  intro c prev rest opens stop
  cases c with
  | between n m =>
    exact ⟨_, scan_of_prefers (betweenPhrase_prefers n m opens stop) (text_ne_nil _)⟩
  | words k => cases k <;> exact scan_clause betweenPhrase_plain rfl stop prev
  | _ => exact scan_clause betweenPhrase_plain rfl stop prev

theorem letterPhrase_plain : StartsPlainly letterPhrase := by decide

theorem letterPhrase_reads : Reads letterPhrase fun
    | .letter c => [⟨(Clause.letter c).text, [[c.val]]⟩]
    | _ => [] := by
  intro c prev rest opens stop
  cases c with
  | letter c => exact ⟨_, scan_of_prefers (letterPhrase_prefers c opens stop) (text_ne_nil _)⟩
  | words k => cases k <;> exact scan_clause letterPhrase_plain rfl stop prev
  | _ => exact scan_clause letterPhrase_plain rfl stop prev

/-- Two words and a number of which the pattern starts at none. -/
theorem scan_at {p : Pattern} (plain : StartsPlainly p) {w : String} {n : Nat}
    (word : IsWord w.toList)
    (fails : p.Fails prev ("at".toList ++ ' ' :: (w.toList ++ ' ' :: (numeral n ++ rest))))
    (skipped : p.Avoids w.toList) (stop : rest.head?.any isWord = false) :
    ∃ prev', p.scan prev 0 ("at".toList ++ ' ' :: (w.toList ++ ' ' :: (numeral n ++ rest))) =
      p.scan prev' 0 rest := by
  have at_ : IsWord "at".toList := by decide
  have number : p.Avoids (numeral n) := Token.avoids plain (t := .number n) rfl
  have space : (' ' :: (numeral n ++ rest)).head?.any isWord = false := isWord_space
  refine ⟨lastOf (some ' ') (numeral n), ?_⟩
  rw [scan_word_of_none plain.words at_ (matchAt_eq_none_iff.mpr fails),
    scan_other plain.words isWord_space, scan_word plain.words word skipped space,
    scan_other plain.words isWord_space, scan_word plain.words (numeral_isWord n) number stop]

theorem atLeastPhrase_plain : StartsPlainly atLeastPhrase := by decide

theorem atLeastPhrase_reads : Reads atLeastPhrase (Comparison.found .atLeast) := by
  intro c prev rest opens stop
  cases c with
  | atLeast n => exact ⟨_, scan_of_prefers (atLeastPhrase_prefers n opens stop) (text_ne_nil _)⟩
  | atMost n =>
    refine scan_at atLeastPhrase_plain (w := "most") (by decide) ?_ (by decide) stop
    refine .seq (.seq (.bounded (.either (fails_second ?_ rfl) (fails_of_openers rfl))) _) _
    rintro c ⟨⟩
    rfl
  | words k => cases k <;> exact scan_clause atLeastPhrase_plain rfl stop prev
  | _ => exact scan_clause atLeastPhrase_plain rfl stop prev

theorem atMostPhrase_plain : StartsPlainly atMostPhrase := by decide

theorem atMostPhrase_reads : Reads atMostPhrase (Comparison.found .atMost) := by
  intro c prev rest opens stop
  cases c with
  | atMost n => exact ⟨_, scan_of_prefers (atMostPhrase_prefers n opens stop) (text_ne_nil _)⟩
  | atLeast n =>
    refine scan_at atMostPhrase_plain (w := "least") (by decide) ?_ (by decide) stop
    refine .seq (.seq (.bounded (.either (fails_second ?_ rfl) (fails_of_openers rfl))) _) _
    rintro c ⟨⟩
    rfl
  | words k => cases k <;> exact scan_clause atMostPhrase_plain rfl stop prev
  | _ => exact scan_clause atMostPhrase_plain rfl stop prev

namespace Comparison

theorem phrase_plain (k : Comparison) : StartsPlainly k.phrase := by
  cases k with
  | longer => exact longerPhrase_plain
  | shorter => exact shorterPhrase_plain
  | atLeast => exact atLeastPhrase_plain
  | atMost => exact atMostPhrase_plain

theorem phrase_reads (k : Comparison) : Reads k.phrase k.found := by
  cases k with
  | longer => exact longerPhrase_reads
  | shorter => exact shorterPhrase_reads
  | atLeast => exact atLeastPhrase_reads
  | atMost => exact atMostPhrase_reads

theorem number?_lt (k : Comparison) {c : Clause} {n : Nat} (h : k.number? c = some n) :
    n < counts := by
  cases k <;> cases c <;> cases h <;> exact Fin.isLt _

end Comparison

theorem exclusionPhrase_plain : StartsPlainly exclusionPhrase := by decide

theorem exclusionPhrase_reads : Reads exclusionPhrase fun _ => [] := by
  intro c prev rest _ stop
  cases c with
  | words k => cases k <;> exact scan_clause exclusionPhrase_plain rfl stop prev
  | _ => exact scan_clause exclusionPhrase_plain rfl stop prev

end Query
end TextCatalog
