import TextCatalog.Proofs.Query.Exclusion
import TextCatalog.Proofs.Text.Context

/-!
# TextCatalog.Proofs.Query.Decisive

Phrases that decide what becomes of a query, whatever stands around them.

* `exclusionCues`, `denialCues` — the negations, and the denials of palindromes.
* `normalizeChars_part` — a phrase between blanks is still there when the query is normalized.
* `parse_decisive` — a negated verb refuses the query, and a denial is not overruled.
-/

namespace TextCatalog
namespace Query

open Pattern Text

variable {p a b s : List Char}

def exclusionCues : List String :=
  ["does not", "doesn't", "doesn’t", "doesnt", "without", "excluding", "not"]

def denialCues : List String :=
  ["non-palindromic", "nonpalindromic", "not a palindrome", "not palindrome",
   "isn't a palindrome", "isn’t a palindrome", "isnt a palindrome",
   "aren't palindromes", "aren’t palindromes", "arent palindromes"]

/-! ## Parts of a query -/

/-- A text that is not changed where it stands between blanks. -/
structure IsFixed (p : List Char) : Prop where
  kept : ∀ c ∈ p, IsKept c
  readable : p.any isReadable = true
  first : ∀ c ∈ p.head?, isBlank c = false
  last : ∀ c ∈ p.getLast?, isBlank c = false

/-- ASCII without capitals, or with the apostrophe that is not in it, from ink to ink. -/
def isCue (p : List Char) : Bool :=
  p.all (fun c => decide (IsLowered c) || c == '’') && p.any isReadable &&
    p.head?.all (!isBlank ·) && p.getLast?.all (!isBlank ·)

theorem isFixed_of_isCue (h : isCue p = true) : IsFixed p := by
  simp only [isCue, Bool.and_eq_true, List.all_eq_true, Bool.or_eq_true, decide_eq_true_eq,
    beq_iff_eq, Option.all_eq_true, Bool.not_eq_true'] at h
  obtain ⟨⟨⟨spelled, readable⟩, first⟩, last⟩ := h
  refine ⟨fun c mem => ?_, readable, first, last⟩
  rcases spelled c mem with lowered | rfl
  · exact isKept_of_lowered lowered
  · decide

theorem lowercase_part (kept : ∀ c ∈ p, IsKept c) (u v : List Char) :
    ∃ before after,
      lowercase (u ++ ' ' :: (p ++ ' ' :: v)) = before ++ ' ' :: (p ++ ' ' :: after) := by
  have space : ∀ c ∈ [' '], IsKept c :=
    List.forall_mem_singleton.mpr (isKept_of_lowered (by decide))
  obtain ⟨before, split⟩ := lowerAfter_append [] u ([' '] ++ (p ++ ([' '] ++ v)))
  refine ⟨before, lowerAfter ([' '] ++ (p.reverse ++ ([' '] ++ (u.reverse ++ [])))) v, ?_⟩
  show lowerAfter [] (u ++ ([' '] ++ (p ++ ([' '] ++ v)))) = _
  rw [split, lowerAfter_of_kept space, lowerAfter_of_kept kept, lowerAfter_of_kept space]
  rfl

/-- Of the texts around the part it matters only that no word goes on into it. -/
theorem normalizeChars_part (h : IsFixed p) (u v : List Char) :
    ∃ a b, normalizeChars (u ++ ' ' :: (p ++ ' ' :: v)) = .ok (a ++ (p ++ b)) ∧
      a.getLast?.any isWord = false ∧ b.head?.any isWord = false := by
  obtain ⟨c, mem, readable⟩ := List.any_eq_true.mp h.readable
  obtain ⟨before, after, lowered⟩ := lowercase_part h.kept u v
  obtain ⟨a, b, trimmed, left, right⟩ :=
    trim_part isBlank_space (List.ne_nil_of_mem mem) h.first h.last before after
  have apart : ∀ o : Option Char, (∀ c ∈ o, c = ' ') → o.any isWord = false := by
    rintro (_ | c) side
    · rfl
    · rw [side c rfl]
      exact isWord_space
  have found : (a ++ (p ++ b)).any isReadable = true :=
    List.any_eq_true.mpr ⟨c, List.mem_append_right a (List.mem_append_left b mem), readable⟩
  rw [← lowered] at trimmed
  exact ⟨a, b, normalizeChars_eq_ok_iff.mpr ⟨trimmed, found⟩, apart _ left, apart _ right⟩

/-! ## Exclusions -/

theorem exclusionCues_negation {n : String} (h : n ∈ exclusionCues) : Negation n.toList := by
  simp only [exclusionCues, List.mem_cons, List.not_mem_nil, or_false] at h
  rcases h with rfl | rfl | rfl | rfl | rfl | rfl | rfl
  · exact .doesNot isGap_space
  · exact .contracted (by decide)
  · exact .contracted (by decide)
  · exact .contracted (by decide)
  · exact .word (by decide)
  · exact .word (by decide)
  · exact .word (by decide)

theorem isFixed_exclusion {n w : String} (negation : n ∈ exclusionCues)
    (verb : w ∈ exclusionVerbs) : IsFixed (n.toList ++ (' ' :: w.toList)) := by
  have spelled : ∀ n ∈ exclusionCues, ∀ w ∈ exclusionVerbs,
      isCue (n.toList ++ (' ' :: w.toList)) = true := by decide
  exact isFixed_of_isCue (spelled n negation w verb)

theorem isExcluded_part {n w : String} (negation : n ∈ exclusionCues) (verb : w ∈ exclusionVerbs)
    (opens : a.getLast?.any isWord = false) (closes : b.head?.any isWord = false) :
    IsExcluded (a ++ ((n.toList ++ (' ' :: w.toList)) ++ b)) := by
  refine ⟨⟨a, n.toList, [' '], w, b, exclusionCues_negation negation, by decide, opens, closes⟩,
    verb, ?_⟩
  simp only [NegatedVerb.text, List.append_assoc, List.cons_append, List.nil_append]

/-- A text with an exclusion is refused for it, unless it has been refused before. -/
theorem filterOf_of_excluded {q : List Char} (normal : normalizeChars q = .ok s)
    (excluded : IsExcluded s) :
    ∃ e, filterOf q = .error e ∧ (e.kind = .conflicting ∨
      readLength s Filter.empty = .error e ∨ readOrdinal s Filter.empty = .error e) := by
  obtain ⟨phrase, refused⟩ := refuseExclusion_of_present (exclusionPhrase_iff.mpr excluded)
  rw [filterOf_of_normal normal, readLength_of_unset rfl rfl, readOrdinal_of_unset rfl]
  cases boundsOf s with
  | error e => exact ⟨e, rfl, .inr (.inl rfl)⟩
  | ok b =>
    cases positionedOf s with
    | error e => exact ⟨e, rfl, .inr (.inr rfl)⟩
    | ok c =>
      refine ⟨.exclusion phrase, ?_, .inl rfl⟩
      simp only [bind, Except.bind, refused]

/-! ## Denials -/

theorem denialCues_denial {p : String} (h : p ∈ denialCues) : Denial p.toList := by
  simp only [denialCues, List.mem_cons, List.not_mem_nil, or_false] at h
  rcases h with rfl | rfl | rfl | rfl | rfl | rfl | rfl | rfl | rfl | rfl
  · exact @Denial.opposite ['-'] (.inr (.inl rfl))
  · exact @Denial.opposite [] (.inl rfl)
  · exact .singular (w := "not".toList) (by decide) isGap_space isGap_of_mem_space
  · exact .singular (w := "not".toList) (by decide) isGap_space isGap_of_mem_none
  · exact .singular (w := "isn't".toList) (by decide) isGap_space isGap_of_mem_space
  · exact .singular (w := "isn’t".toList) (by decide) isGap_space isGap_of_mem_space
  · exact .singular (w := "isnt".toList) (by decide) isGap_space isGap_of_mem_space
  · exact .plural (w := "aren't".toList) (by decide) isGap_space (.inr rfl)
  · exact .plural (w := "aren’t".toList) (by decide) isGap_space (.inr rfl)
  · exact .plural (w := "arent".toList) (by decide) isGap_space (.inr rfl)

theorem isFixed_denial {p : String} (h : p ∈ denialCues) : IsFixed p.toList := by
  have spelled : ∀ p ∈ denialCues, isCue p.toList = true := by decide
  exact isFixed_of_isCue (spelled p h)

theorem flagOf_part (h : Denial p) (opens : a.getLast?.any isWord = false)
    (closes : b.head?.any isWord = false) : flagOf (a ++ (p ++ b)) = some false := by
  have occurs : palindromeDenied.occursIn (a ++ (p ++ b)) = true := by
    have ne : p ≠ [] := by
      rintro rfl
      have first := (h.isWord none []).1
      cases first
    exact occursIn_iff.mpr ⟨a, p, b, [], rfl, by simp [ne], palindromeDenied_spells_iff.mpr
      ⟨⟨h, rfl⟩, by rwa [lastOf_none], closes⟩⟩
  rw [flagOf, readPalindrome, if_pos occurs]

/-! ## The whole reading -/

theorem toList_inContext (u v p : String) :
    (u ++ " " ++ p ++ " " ++ v).toList = u.toList ++ ' ' :: (p.toList ++ ' ' :: v.toList) := by
  simp only [String.toList_append, List.append_assoc]
  rfl

/--
A negated verb between two texts refuses the query as one that no filter can meet, unless what the
query says of lengths or positions is refused before. A denial of palindromes between two texts
decides the flag.
-/
theorem parse_decisive (u v : String) :
    (∀ n ∈ exclusionCues, ∀ w ∈ exclusionVerbs,
      ∃ s e, normalize (u ++ " " ++ n ++ " " ++ w ++ " " ++ v) = .ok s ∧
        parse (u ++ " " ++ n ++ " " ++ w ++ " " ++ v) = .error e ∧
        (e.kind = .conflicting ∨ readLength s.toList Filter.empty = .error e ∨
          readOrdinal s.toList Filter.empty = .error e)) ∧
    ∀ p ∈ denialCues, ∀ q, parse (u ++ " " ++ p ++ " " ++ v) = .ok q →
      q.filter.isPalindrome = some false := by
  constructor
  · intro n negation w verb
    obtain ⟨a, b, normal, opens, closes⟩ :=
      normalizeChars_part (isFixed_exclusion negation verb) u.toList v.toList
    obtain ⟨e, refused, cause⟩ :=
      filterOf_of_excluded normal (isExcluded_part negation verb opens closes)
    have whole : (u ++ " " ++ n ++ " " ++ w ++ " " ++ v).toList =
        u.toList ++ ' ' :: ((n.toList ++ (' ' :: w.toList)) ++ ' ' :: v.toList) := by
      simp only [String.toList_append, List.append_assoc]
      rfl
    refine ⟨String.ofList (a ++ ((n.toList ++ (' ' :: w.toList)) ++ b)), e, ?_, ?_, ?_⟩
    · rw [normalize, whole, normal]
      rfl
    · rw [parse_eq_error_iff, whole]
      exact refused
    · rwa [String.toList_ofList]
  · intro p denial q read
    obtain ⟨a, b, normal, opens, closes⟩ :=
      normalizeChars_part (isFixed_denial denial) u.toList v.toList
    obtain ⟨accepted, _⟩ := parse_eq_ok_iff.mp read
    rw [toList_inContext] at accepted
    obtain ⟨s, _, _, normal', _, _, _, _, same⟩ := filterOf_eq_ok_iff.mp accepted
    rw [normal] at normal'
    cases normal'
    rw [same]
    exact flagOf_part (denialCues_denial denial) opens closes

def notAPalindromeAmidCues : Query :=
  ⟨"palindromic ΟΔΟΣ not a palindrome palindromes", { isPalindrome := some false }⟩

theorem parse_decisive_between_words :
    (∃ s e, normalize "Texts that don’t doesn’t include longer than 5" = .ok s ∧
      parse "Texts that don’t doesn’t include longer than 5" = .error e ∧
      (e.kind = .conflicting ∨ readLength s.toList Filter.empty = .error e ∨
        readOrdinal s.toList Filter.empty = .error e)) ∧
    parse "palindromic ΟΔΟΣ not a palindrome palindromes" = .ok notAPalindromeAmidCues ∧
      notAPalindromeAmidCues.filter.isPalindrome = some false := by
  have read : parse "palindromic ΟΔΟΣ not a palindrome palindromes" =
      .ok notAPalindromeAmidCues := by
    rfl
  exact ⟨(parse_decisive "Texts that don’t" "longer than 5").1 "doesn’t" (by decide) "include"
    (by decide), read, (parse_decisive "palindromic ΟΔΟΣ" "palindromes").2 "not a palindrome"
    (by decide) notAPalindromeAmidCues read⟩

end Query
end TextCatalog
