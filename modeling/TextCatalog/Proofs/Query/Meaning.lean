import TextCatalog.Proofs.Query.ClauseCue
import TextCatalog.Proofs.Query.ClauseLength
import TextCatalog.Proofs.Query.ClauseOrdinal
import TextCatalog.Proofs.Query.Fields

/-!
# TextCatalog.Proofs.Query.Meaning

The meaning of a query is made of the meanings of its clauses.

* `normalizeChars_clauses` — a text of clauses is normal.
* `readPalindrome_clauses` and the others — what every stage reads from it.
* `parse_clauses` — the whole reading, for clauses in any number and order.
-/

namespace TextCatalog
namespace Query

open Pattern Text

/-! ## Normal form -/

def Token.isLowered : Token → Bool
  | fixed w => w.toList.all fun c => decide (IsLowered c)
  | _ => true

theorem Token.text_isLowered {t : Token} (h : t.isLowered = true) : ∀ c ∈ t.text, IsLowered c := by
  cases t with
  | fixed w => exact fun c mem => of_decide_eq_true (List.all_eq_true.mp h c mem)
  | number n => exact fun c mem => isLowered_of_digit (numeral_isDigit c mem)
  | letter a =>
    intro c mem
    rw [List.mem_singleton.mp mem]
    exact isLowered_of_latin a.2.1 a.2.2

theorem mem_joined {sep x : Char} {ws : List (List Char)} (h : x ∈ joined sep ws) :
    x = sep ∨ ∃ w ∈ ws, x ∈ w := by
  induction ws with
  | nil => cases h
  | cons w ws ih =>
    cases ws with
    | nil => exact .inr ⟨w, List.mem_cons_self, h⟩
    | cons w' ws =>
      rw [joined, List.mem_append, List.mem_cons] at h
      · rcases h with here | sep | later
        · exact .inr ⟨w, List.mem_cons_self, here⟩
        · exact .inl sep
        · rcases ih later with sep | ⟨v, mem, inside⟩
          · exact .inl sep
          · exact .inr ⟨v, List.mem_cons_of_mem w mem, inside⟩
      · exact List.cons_ne_nil w' ws

theorem text_isLowered (c : Clause) : ∀ x ∈ c.text, IsLowered x := by
  have all : c.tokens.all Token.isLowered = true := by
    cases c with
    | words k => cases k <;> rfl
    | _ => rfl
  have separator : IsLowered c.separator := by
    cases c with
    | nonPalindromic => decide
    | _ => exact (by decide : IsLowered ' ')
  intro x mem
  rw [text_eq_joined] at mem
  rcases mem_joined mem with rfl | ⟨w, word, inside⟩
  · exact separator
  · obtain ⟨t, token, rfl⟩ := List.mem_map.mp word
    exact Token.text_isLowered (List.all_eq_true.mp all t token) x inside

theorem text_first (c : Clause) :
    ∃ x s, c.text = x :: s ∧ x.isLower = true ∧ isBlank x = false := by
  cases c with
  | words k => cases k <;> exact ⟨_, _, rfl, rfl, rfl⟩
  | _ => exact ⟨_, _, rfl, rfl, rfl⟩

theorem text_last (c : Clause) : ∃ s w, c.text = s ++ w ∧ IsWord w := by
  cases c with
  | longer n => exact ⟨_, _, rfl, numeral_isWord n⟩
  | shorter n => exact ⟨_, _, rfl, numeral_isWord n⟩
  | atLeast n => exact ⟨_, _, rfl, numeral_isWord n⟩
  | atMost n => exact ⟨_, _, rfl, numeral_isWord n⟩
  | between n m =>
    refine ⟨"between ".toList ++ (numeral n ++ " and ".toList), numeral m, ?_, numeral_isWord m⟩
    rw [List.append_assoc, List.append_assoc]
    rfl
  | palindromic => exact ⟨[], _, rfl, by decide⟩
  | nonPalindromic => exact ⟨"non-".toList, "palindromic".toList, rfl, by decide⟩
  | words k =>
    refine ⟨k.word.toList ++ " word ".toList, "strings".toList, ?_, by decide⟩
    rw [List.append_assoc]
    rfl
  | letter c => exact ⟨_, _, rfl, letter_isWord c⟩

theorem clausesText_isLowered (cs : List Clause) : ∀ x ∈ clausesText cs, IsLowered x := by
  have and : " and ".toList.all (fun x => decide (IsLowered x)) = true := by decide
  induction cs with
  | nil => intro x mem; cases mem
  | cons c cs ih =>
    cases cs with
    | nil => exact text_isLowered c
    | cons d cs =>
      intro x mem
      rw [clausesText, List.mem_append, List.mem_append] at mem
      · rcases mem with here | joint | later
        · exact text_isLowered c x here
        · exact of_decide_eq_true (List.all_eq_true.mp and x joint)
        · exact ih x later
      · exact List.cons_ne_nil d cs

theorem clausesText_last (c : Clause) (cs : List Clause) (prev : Option Char) :
    (lastOf prev (clausesText (c :: cs))).any isWord = true := by
  induction cs generalizing c prev with
  | nil =>
    obtain ⟨s, w, text, word⟩ := text_last c
    rw [clausesText, text, lastOf_append]
    exact last_isWord word _
  | cons d cs ih =>
    rw [clausesText, lastOf_append, lastOf_append]
    · exact ih d _
    · exact List.cons_ne_nil d cs

theorem normalizeChars_of_normal {x : Char} {s : List Char}
    (lowered : lowercase (x :: s) = x :: s) (trimmed : trim (x :: s) = x :: s)
    (readable : (x :: s).any isReadable = true) : normalizeChars (x :: s) = .ok (x :: s) := by
  rw [normalizeChars, lowered]
  simp only [trimmed, readable]
  rfl

theorem normalizeChars_clauses (c : Clause) (cs : List Clause) :
    normalizeChars (clausesText (c :: cs)) = .ok (clausesText (c :: cs)) := by
  obtain ⟨rest, text, _⟩ := clausesText_cons c cs
  obtain ⟨x, s, start, lower, ink⟩ := text_first c
  have shape : clausesText (c :: cs) = x :: (s ++ rest) := by
    rw [text, start]
    rfl
  have lowered := lowercase_of_lowered (clausesText_isLowered (c :: cs))
  have first : ∀ y ∈ (clausesText (c :: cs)).head?, isBlank y = false := by
    rw [shape]
    rintro y ⟨⟩
    exact ink
  have last : ∀ y ∈ (clausesText (c :: cs)).getLast?, isBlank y = false := by
    intro y mem
    have word := clausesText_last c cs none
    rw [lastOf, Option.or_none, Option.mem_def.mp mem] at word
    exact isBlank_of_isWord word
  have trimmed := trim_of_ends first last
  rw [shape] at lowered trimmed ⊢
  refine normalizeChars_of_normal lowered trimmed ?_
  rw [List.any_cons, isReadable, lower]
  rfl

/-! ## Stages -/

theorem readPalindrome_clauses (cs : List Clause) :
    readPalindrome (clausesText cs) Filter.empty =
      { Filter.empty with isPalindrome := (asked cs).isPalindrome } := by
  unfold readPalindrome
  show _ = { Filter.empty with isPalindrome :=
    if Clause.nonPalindromic ∈ cs then some false
    else if Clause.palindromic ∈ cs then some true
    else none }
  by_cases denied : Clause.nonPalindromic ∈ cs
  · rw [if_pos ((palindromeDenied_clauses cs).mpr denied), if_pos denied]
  · rw [if_neg fun occurs => denied ((palindromeDenied_clauses cs).mp occurs), if_neg denied]
    by_cases wanted : Clause.palindromic ∈ cs
    · rw [if_pos ⟨rfl, (palindromeAsked_clauses cs).mpr (.inl wanted)⟩, if_pos wanted]
    · rw [if_neg, if_neg wanted]
      · rfl
      · rintro ⟨_, occurs⟩
        rcases (palindromeAsked_clauses cs).mp occurs with mem | mem
        · exact wanted mem
        · exact denied mem

theorem readWordCount_clauses (cs : List Clause) {f : Filter} (h : f.wordCount = none) :
    readWordCount (clausesText cs) f = { f with wordCount := (asked cs).wordCount } := by
  have captures := wordCountPhrase_clauses cs
  unfold readWordCount
  show _ = { f with wordCount := (cs.findSome? Clause.countWord?).map CountWord.value }
  cases counted : cs.findSome? Clause.countWord? with
  | none =>
    rw [counted] at captures
    rw [Option.map_eq_none_iff.mp captures]
    exact congrArg (fun n => { f with wordCount := n }) h
  | some k =>
    rw [counted] at captures
    obtain ⟨m, found, captured⟩ := Option.map_eq_some_iff.mp captures
    have number : numberOf? (m.capture 0) = some k.value := by
      rw [Match.capture, captured]
      exact numberOf?_countWord k
    rw [found, Option.bind_some, number]
    rfl

theorem findAll_letter (cs : List Clause) : letterPhrase.findAll (clausesText cs) =
    (cs.filterMap Clause.letter?).map fun c => ⟨(Clause.letter c).text, [[c.val]]⟩ := by
  rw [findAll_clauses letterPhrase_plain letterPhrase_reads]
  induction cs with
  | nil => rfl
  | cons c cs ih =>
    rw [List.flatMap_cons, List.filterMap_cons, ih]
    cases c <;> rfl

theorem readLetter_clauses (cs : List Clause) {f : Filter} (h : f.containsCharacter = none) :
    readLetter (clausesText cs) f =
      { f with containsCharacter := (asked cs).containsCharacter } := by
  unfold readLetter findLast?
  show _ = { f with
    containsCharacter := (cs.filterMap Clause.letter?).getLast?.map fun c : Letter => c.val }
  rw [h, findAll_letter, List.getLast?_map]
  cases (cs.filterMap Clause.letter?).getLast? with
  | none => exact congrArg (fun c => { f with containsCharacter := c }) h
  | some c => rfl

theorem readOrdinal_clauses (cs : List Clause) (f : Filter) :
    readOrdinal (clausesText cs) f = .ok f := by
  rw [readOrdinal, ordinalPhrase_clauses]
  rfl

theorem refuseExclusion_clauses (cs : List Clause) (f : Filter) :
    refuseExclusion (clausesText cs) f = .ok f := by
  have found := findAll_clauses exclusionPhrase_plain exclusionPhrase_reads cs
  have none_left : cs.flatMap (fun _ => ([] : List Match)) = [] :=
    List.flatMap_eq_nil_iff.mpr fun _ _ => rfl
  rw [refuseExclusion, find?, found, none_left]
  rfl

theorem readLength_of_bounds {s : List Char} {f : Filter} {least most : Option Nat}
    (h : readBounds s ⟨f.minLength, f.maxLength⟩ = .ok ⟨least, most⟩) :
    readLength s f = .ok { f with minLength := least, maxLength := most } := by
  rw [readLength, h]
  rfl

theorem readLength_of_refused {s : List Char} {f : Filter} {e : QueryError}
    (h : readBounds s ⟨f.minLength, f.maxLength⟩ = .error e) : readLength s f = .error e := by
  rw [readLength, h]
  rfl

/-- Only the lengths can be refused by a stage. -/
theorem run_clauses (cs : List Clause) :
    (IsRefused cs ∧ ∃ e, Stage.run Stage.all (clausesText cs) Filter.empty = .error e ∧
        e.kind = .conflicting) ∨
      (¬IsRefused cs ∧ Stage.run Stage.all (clausesText cs) Filter.empty = .ok (asked cs)) := by
  let f : Filter := { Filter.empty with isPalindrome := (asked cs).isPalindrome }
  let g : Filter := { f with wordCount := (asked cs).wordCount }
  have counted : readWordCount (clausesText cs) f = g := readWordCount_clauses cs rfl
  rcases readBounds_clauses cs with ⟨refused, e, bounds, kind⟩ | ⟨accepted, bounds⟩
  · refine .inl ⟨refused, e, ?_, kind⟩
    have lengths : readLength (clausesText cs) g = .error e := readLength_of_refused bounds
    simp only [Stage.run, Stage.all, Stage.apply, readPalindrome_clauses]
    rw [counted, lengths]
  · refine .inr ⟨accepted, ?_⟩
    have lengths : readLength (clausesText cs) g =
        .ok { g with minLength := least cs, maxLength := most cs } := readLength_of_bounds bounds
    have named :
        readLetter (clausesText cs) { g with minLength := least cs, maxLength := most cs } =
          asked cs := readLetter_clauses cs rfl
    simp only [Stage.run, Stage.all, Stage.apply, readPalindrome_clauses]
    rw [counted, lengths]
    simp only [readOrdinal_clauses]
    rw [named, refuseExclusion_clauses]

/-! ## The last check -/

/-- A bound that the last range sets is missing only without a range. -/
theorem unranged_iff {rs : List (Nat × Nat)} {f : Nat × Nat → Nat} {other : Option Nat} :
    (match rs.getLast? with
      | some r => some (f r)
      | none => other) = none ↔ rs = [] ∧ other = none := by
  cases range : rs.getLast? with
  | none => simp [List.getLast?_eq_none_iff.mp range]
  | some r =>
    have some_range : rs ≠ [] := by
      rintro rfl
      cases range
    simp [some_range]

theorem low_eq_none_iff {cs : List Clause} :
    low cs = none ↔ ranges cs = [] ∧ cs.filterMap Clause.longer? = [] := by
  refine unranged_iff.trans ?_
  rw [List.max?_eq_none_iff, List.map_eq_nil_iff]

theorem high_eq_none_iff {cs : List Clause} :
    high cs = none ↔ ranges cs = [] ∧ cs.filterMap Clause.shorter? = [] := by
  refine unranged_iff.trans ?_
  rw [List.min?_eq_none_iff, List.map_eq_nil_iff]

theorem least_eq_none_iff {cs : List Clause} :
    least cs = none ↔ low cs = none ∧ cs.filterMap Clause.atLeast? = [] := by
  rw [least, List.max?_eq_none_iff, List.append_eq_nil_iff, Option.toList_eq_nil_iff]

theorem most_eq_none_iff {cs : List Clause} :
    most cs = none ↔ high cs = none ∧ cs.filterMap Clause.atMost? = [] := by
  rw [most, List.min?_eq_none_iff, List.append_eq_nil_iff, Option.toList_eq_nil_iff]

/-- Every clause sets some field of the filter. -/
theorem asked_ne_empty {c : Clause} {cs : List Clause} (mem : c ∈ cs) :
    asked cs ≠ Filter.empty := by
  intro empty
  obtain ⟨noLow, noLeast⟩ := least_eq_none_iff.mp (congrArg Filter.minLength empty)
  obtain ⟨noHigh, noMost⟩ := most_eq_none_iff.mp (congrArg Filter.maxLength empty)
  obtain ⟨noRange, noLonger⟩ := low_eq_none_iff.mp noLow
  obtain ⟨_, noShorter⟩ := high_eq_none_iff.mp noHigh
  have noPalindrome := congrArg Filter.isPalindrome empty
  have noWords := Option.map_eq_none_iff.mp (congrArg Filter.wordCount empty)
  have noLetter := Option.map_eq_none_iff.mp (congrArg Filter.containsCharacter empty)
  rw [List.getLast?_eq_none_iff] at noLetter
  cases c with
  | longer n => cases List.filterMap_eq_nil_iff.mp noLonger _ mem
  | shorter n => cases List.filterMap_eq_nil_iff.mp noShorter _ mem
  | atLeast n => cases List.filterMap_eq_nil_iff.mp noLeast _ mem
  | atMost n => cases List.filterMap_eq_nil_iff.mp noMost _ mem
  | between n m => cases List.filterMap_eq_nil_iff.mp noRange _ mem
  | palindromic =>
    simp only [asked, mem, if_true] at noPalindrome
    split at noPalindrome <;> cases noPalindrome
  | nonPalindromic =>
    simp only [asked, mem, if_true] at noPalindrome
    cases noPalindrome
  | words k => cases List.findSome?_eq_none_iff.mp noWords _ mem
  | letter a => cases List.filterMap_eq_nil_iff.mp noLetter _ mem

theorem check_asked {cs : List Clause} (set : asked cs ≠ Filter.empty) :
    ((∃ min ∈ least cs, ∃ max ∈ most cs, max < min) ∧
        ∃ e, check (asked cs) = .error e ∧ e.kind = .conflicting) ∨
      ((¬∃ min ∈ least cs, ∃ max ∈ most cs, max < min) ∧ check (asked cs) = .ok ()) := by
  by_cases crossed : ∃ min ∈ least cs, ∃ max ∈ most cs, max < min
  · obtain ⟨min, lower, max, upper, lt⟩ := crossed
    exact .inl ⟨⟨min, lower, max, upper, lt⟩, _, check_of_crossed set lower upper lt, rfl⟩
  · refine .inr ⟨crossed, check_of_ordered set fun min lower max upper => ?_⟩
    exact Nat.not_lt.mp fun lt => crossed ⟨min, lower, max, upper, lt⟩

/-! ## The whole reading -/

theorem filterOf_clauses (c : Clause) (cs : List Clause) :
    (IsConflicting (c :: cs) ∧
        ∃ e, filterOf (clausesText (c :: cs)) = .error e ∧ e.kind = .conflicting) ∨
      (¬IsConflicting (c :: cs) ∧ filterOf (clausesText (c :: cs)) = .ok (asked (c :: cs))) := by
  rw [filterOf_of_run (normalizeChars_clauses c cs)]
  rcases run_clauses (c :: cs) with ⟨refused, e, run, kind⟩ | ⟨accepted, run⟩
  · rw [run]
    exact .inl ⟨.inl refused, e, rfl, kind⟩
  · rw [run]
    rcases check_asked (asked_ne_empty List.mem_cons_self) with ⟨crossed, e, checked, kind⟩ |
      ⟨ordered, checked⟩
    · refine .inl ⟨.inr crossed, e, ?_, kind⟩
      exact congrArg (· >>= fun _ => pure (asked (c :: cs))) checked
    · refine .inr ⟨fun conflicting => conflicting.elim accepted ordered, ?_⟩
      exact congrArg (· >>= fun _ => pure (asked (c :: cs))) checked

theorem parse_clauses (c : Clause) (cs : List Clause) :
    (parse (String.ofList (clausesText (c :: cs)))).mapError QueryError.kind =
      if IsConflicting (c :: cs) then .error .conflicting
      else .ok ⟨String.ofList (clausesText (c :: cs)), asked (c :: cs)⟩ := by
  unfold parse
  rw [String.toList_ofList]
  rcases filterOf_clauses c cs with ⟨conflicting, e, refused, kind⟩ | ⟨accepted, read⟩
  · rw [if_pos conflicting, refused, ← kind]
    rfl
  · rw [if_neg accepted, read]
    rfl

end Query
end TextCatalog
