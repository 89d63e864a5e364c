import TextCatalog.Proofs.Query.WordCount

/-!
# TextCatalog.Proofs.Query.ClauseCue

The phrases of which a single one decides, in a text of clauses.

* `palindromeDenied_clauses`, `palindromeAsked_clauses` — whether there is a clause on palindromes.
* `wordCountPhrase_clauses` — the first clause that counts words. Its match can go on over many
  clauses, but what it captures is the count of that clause.
-/

namespace TextCatalog
namespace Query

open Pattern Text

variable {prev : Option Char} {rest : List Char}

theorem occursIn_clauses {p : Pattern} {f : Clause → List Match} (plain : StartsPlainly p)
    (reads : Reads p f) (cs : List Clause) :
    p.occursIn (clausesText cs) = true ↔ ∃ c ∈ cs, f c ≠ [] := by
  rw [occursIn, find?, findAll_clauses plain reads]
  cases found : cs.flatMap f with
  | nil =>
    constructor
    · intro h
      cases h
    · rintro ⟨c, mem, ne⟩
      exact absurd (List.flatMap_eq_nil_iff.mp found c mem) ne
  | cons m ms =>
    refine ⟨fun _ => ?_, fun _ => rfl⟩
    have mem : m ∈ cs.flatMap f := found ▸ List.mem_cons_self
    obtain ⟨c, listed, mem⟩ := List.mem_flatMap.mp mem
    exact ⟨c, listed, List.ne_nil_of_mem mem⟩

/-! ## Palindromes -/

theorem palindromeDenied_prefers (opens : prev.any isWord = false)
    (stop : rest.head?.any isWord = false) :
    palindromeDenied.Prefers prev Clause.nonPalindromic.text rest [] := by
  have non : IsWord "non".toList := by decide
  have palindromic : IsWord "palindromic".toList := by decide
  have h : palindromeDenied.Prefers prev ([] ++ ("non".toList ++ "-".toList ++
      "palindromic".toList) ++ []) rest ([] ++ ([] ++ [] ++ []) ++ []) := by
    refine .seq (.seq ?_ (.oneOf (.seq (.seq ?_ (.maybe (.oneOf ?_ _))) ?_) _)) ?_
    · exact prefers_start opens non _
    · exact prefers_text "non" _
    · exact prefers_text "-" _
    · exact prefers_text "palindromic" _
    · exact prefers_end palindromic ([] ++ ("non".toList ++ "-".toList)) stop
  exact h

theorem palindromeAsked_prefers (opens : prev.any isWord = false)
    (stop : rest.head?.any isWord = false) :
    palindromeAsked.Prefers prev "palindromic".toList rest [] := by
  have palindromic : IsWord "palindromic".toList := by decide
  have h : palindromeAsked.Prefers prev ([] ++ "palindromic".toList ++ []) rest
      ([] ++ [] ++ []) := by
    refine .seq (.seq ?_ (.oneOf ?_ _)) ?_
    · exact prefers_start opens palindromic _
    · exact prefers_text "palindromic" _
    · exact prefers_end palindromic [] stop
  exact h

theorem palindromeDenied_plain : StartsPlainly palindromeDenied := by decide

theorem palindromeDenied_reads : Reads palindromeDenied fun
    | .nonPalindromic => [⟨Clause.nonPalindromic.text, []⟩]
    | _ => [] := by
  intro c prev rest opens stop
  cases c with
  | nonPalindromic =>
    exact ⟨_, scan_of_prefers (palindromeDenied_prefers opens stop) (text_ne_nil _)⟩
  | words k => cases k <;> exact scan_clause palindromeDenied_plain rfl stop prev
  | _ => exact scan_clause palindromeDenied_plain rfl stop prev

theorem palindromeAsked_plain : StartsPlainly palindromeAsked := by decide

/-- The adjective is also found after `non`. -/
theorem palindromeAsked_reads : Reads palindromeAsked fun
    | .palindromic => [⟨"palindromic".toList, []⟩]
    | .nonPalindromic => [⟨"palindromic".toList, []⟩]
    | _ => [] := by
  intro c prev rest opens stop
  cases c with
  | palindromic =>
    exact ⟨_, scan_of_prefers (palindromeAsked_prefers opens stop) (text_ne_nil .palindromic)⟩
  | nonPalindromic =>
    have non : IsWord "non".toList := by decide
    have avoids : palindromeAsked.Avoids "non".toList := by decide
    have hyphen : (some '-').any isWord = false := by decide
    have asked := scan_of_prefers (palindromeAsked_prefers hyphen stop)
      (text_ne_nil .palindromic)
    refine ⟨_, Eq.trans ?_ asked⟩
    show palindromeAsked.scan prev 0 ("non".toList ++ '-' :: ("palindromic".toList ++ rest)) = _
    have end_ : ('-' :: ("palindromic".toList ++ rest)).head?.any isWord = false := hyphen
    rw [scan_word palindromeAsked_plain.words non avoids end_,
      scan_other palindromeAsked_plain.words hyphen]
  | words k => cases k <;> exact scan_clause palindromeAsked_plain rfl stop prev
  | _ => exact scan_clause palindromeAsked_plain rfl stop prev

theorem palindromeDenied_clauses (cs : List Clause) :
    palindromeDenied.occursIn (clausesText cs) = true ↔ .nonPalindromic ∈ cs := by
  rw [occursIn_clauses palindromeDenied_plain palindromeDenied_reads]
  constructor
  · rintro ⟨c, mem, found⟩
    cases c with
    | nonPalindromic => exact mem
    | _ => exact absurd rfl found
  · intro mem
    exact ⟨_, mem, List.cons_ne_nil _ _⟩

theorem palindromeAsked_clauses (cs : List Clause) :
    palindromeAsked.occursIn (clausesText cs) = true ↔
      .palindromic ∈ cs ∨ .nonPalindromic ∈ cs := by
  rw [occursIn_clauses palindromeAsked_plain palindromeAsked_reads]
  constructor
  · rintro ⟨c, mem, found⟩
    cases c with
    | palindromic => exact .inl mem
    | nonPalindromic => exact .inr mem
    | _ => exact absurd rfl found
  · rintro (mem | mem)
    · exact ⟨_, mem, List.cons_ne_nil _ _⟩
    · exact ⟨_, mem, List.cons_ne_nil _ _⟩

/-! ## Counts of words -/

/-- In its clause the phrase is found, and it captures the count. -/
theorem wordCountPhrase_matchAt (k : CountWord) (opens : prev.any isWord = false)
    (rest : List Char) :
    ∃ m, wordCountPhrase.matchAt prev ((Clause.words k).text ++ rest) = some m ∧
      m.captures = [k.word.toList] := by
  have text : (Clause.words k).text ++ rest =
      k.word.toList ++ ([' '] ++ ("word".toList ++ (" strings".toList ++ rest))) :=
    List.append_assoc _ _ _
  have space : (" strings".toList ++ rest).head?.any isWord = false := isWord_space
  have before :
      ([' '] ++ ("word".toList ++ (" strings".toList ++ rest))).head?.any isWord = false :=
    isWord_space
  have leads : leadsToNoun (wordRuns ([' '] ++ ("word".toList ++ (" strings".toList ++ rest)))) =
      true := by
    rw [wordRuns_append (isWord_of_gap isGap_space) (by decide) space, leadsToNoun_cons]
    rfl
  rw [text]
  cases found : wordCountPhrase.matchAt prev
      (k.word.toList ++ ([' '] ++ ("word".toList ++ (" strings".toList ++ rest)))) with
  | none => exact absurd found (matchAt_ne_none k opens leads)
  | some m =>
    obtain ⟨k', captures, count⟩ := countIn_of_matchAt found
    rw [wordRuns_word (countWord_isWord k) before, countIn_word, if_pos leads] at count
    cases count
    exact ⟨m, rfl, captures⟩

theorem skips_of_countWord?_eq_none {c : Clause} (h : c.countWord? = none) :
    c.isSkippedBy wordCountPhrase = true := by
  cases c with
  | words k => cases h
  | _ => rfl

/-- The first clause that counts words decides, whatever comes after it. -/
theorem head?_scan_clauses (cs : List Clause) (opens : prev.any isWord = false) :
    ((wordCountPhrase.scan prev 0 (clausesText cs)).head?).map (·.captures) =
      (cs.findSome? Clause.countWord?).map fun k => [k.word.toList] := by
  -- The match may run on into later clauses, up to the last noun it can reach, so its end is not
  -- known here: only its start and its capture are.
  induction cs generalizing prev with
  | nil =>
    unfold scan
    rfl
  | cons c cs ih =>
    cases counted : c.countWord? with
    | some k =>
      obtain rfl : c = .words k := by
        cases c <;> cases counted
        rfl
      obtain ⟨rest, text, _⟩ := clausesText_cons (.words k) cs
      obtain ⟨m, found, captures⟩ := wordCountPhrase_matchAt k opens rest
      have ne : (Clause.words k).text ++ rest ≠ [] :=
        List.append_ne_nil_of_left_ne_nil (text_ne_nil _) rest
      rw [text, head?_scan ne found, List.findSome?_cons_of_isSome (by rfl)]
      exact congrArg some captures
    | none =>
      have skips := skips_of_countWord?_eq_none counted
      rw [List.findSome?_cons, counted]
      cases cs with
      | nil =>
        have stop : ([] : List Char).head?.any isWord = false := rfl
        obtain ⟨prev', passed⟩ := scan_clause wordCountPhrase_plain skips stop prev
        rw [List.append_nil] at passed
        rw [clausesText, passed]
        unfold scan
        rfl
      | cons d cs =>
        have stop : (" and ".toList ++ clausesText (d :: cs)).head?.any isWord = false :=
          isWord_space
        obtain ⟨prev', passed⟩ := scan_clause wordCountPhrase_plain skips stop prev
        have opens : (some ' ').any isWord = false := isWord_space
        rw [clausesText, passed, scan_and wordCountPhrase_plain]
        · exact ih opens
        · exact List.cons_ne_nil d cs

theorem wordCountPhrase_clauses (cs : List Clause) :
    (wordCountPhrase.find? (clausesText cs)).map (·.captures) =
      (cs.findSome? Clause.countWord?).map fun k => [k.word.toList] :=
  head?_scan_clauses cs rfl

end Query
end TextCatalog
