import TextCatalog.Proofs.Pattern.Search
import TextCatalog.Proofs.Text.Classes
import TextCatalog.Query.Reading

/-!
# TextCatalog.Proofs.Query.Palindrome

Which denials of palindromes a query is understood to make.

* `NegatedCue` — a text in which a negation stands right before a word for palindromes.
* `IsDenied` — the texts in which one of the understood denials stands.
* `palindromeDenied_iff` — the pattern of denials occurs in just these.
* `readPalindrome_negatedCue` — a negated cue asks for palindromes unless its text is among them.
-/

namespace TextCatalog
namespace Query

open Pattern Text

variable {prev : Option Char} {s rest : List Char} {xs : List (List Char)}

/-- A verb with `not` shortened onto it, without an apostrophe or with either one. -/
def shortened (verb : String) : List (List Char) :=
  [[], ['\''], ['’']].map fun mark => verb.toList ++ (mark ++ ['t'])

def negations : List (List Char) := "not".toList :: (shortened "isn" ++ shortened "aren")

def cues : List String := ["palindrome", "palindromes", "palindromic"]

/-- The article with the blanks after it, if there is one. -/
def articleText : Option (List Char) → List Char
  | none => []
  | some gap => 'a' :: gap

/-- A cue right after a negation, both of them whole words, somewhere in a text. -/
structure NegatedCue where
  before : List Char
  negation : List Char
  gap : List Char
  article : Option (List Char)
  cue : String
  after : List Char
  known : negation ∈ negations
  asked : cue ∈ cues
  gap_blank : IsGap gap
  article_blank : ∀ g ∈ article, IsGap g
  opens : before.getLast?.any isWord = false
  closes : after.head?.any isWord = false

def NegatedCue.text (n : NegatedCue) : List Char :=
  n.before ++ (n.negation ++ (n.gap ++ (articleText n.article ++ (n.cue.toList ++ n.after))))

/-- The pairs of negation and cue that are understood. -/
def NegatedCue.IsCovered (n : NegatedCue) : Prop :=
  (n.negation ∈ "not".toList :: shortened "isn" ∧ n.cue = "palindrome") ∨
    (n.negation ∈ shortened "aren" ∧ n.article = none ∧ n.cue ≠ "palindromic")

/-- What joins `non` to `palindromic`. -/
def IsJoint (s : List Char) : Prop := s = [] ∨ s = ['-'] ∨ ∃ c, isBlank c = true ∧ s = [c]

def HasOpposite (s : List Char) : Prop :=
  ∃ before joint after, s = before ++ ("non".toList ++ (joint ++ ("palindromic".toList ++ after))) ∧
    IsJoint joint ∧ before.getLast?.any isWord = false ∧ after.head?.any isWord = false

def IsDenied (s : List Char) : Prop :=
  HasOpposite s ∨ ∃ n : NegatedCue, n.IsCovered ∧ n.text = s

/-! ## Parts of the phrases -/

theorem spells_contracted_iff {verb : String} :
    (contracted verb).Spells prev s rest xs ↔ s ∈ shortened verb ∧ xs = [] := by
  have shapes : s ∈ shortened verb ↔
      s = verb.toList ++ ([] ++ ['t']) ∨ s = verb.toList ++ (['\''] ++ ['t']) ∨
        s = verb.toList ++ (['’'] ++ ['t']) := by
    simp [shortened]
  rw [shapes, ← List.append_assoc, ← List.append_assoc, ← List.append_assoc]
  constructor
  · rintro ⟨_, _, _, _, rfl, rfl, ⟨_, _, _, _, rfl, rfl, ⟨rfl, rfl⟩, mark⟩, rfl, rfl⟩
    rcases mark with ⟨⟨c, rfl, has⟩, rfl⟩ | ⟨rfl, rfl⟩
    · have either : c = '\'' ∨ c = '’' := by simpa [CharClass.has] using has
      rcases either with rfl | rfl
      · exact ⟨.inr (.inl rfl), rfl⟩
      · exact ⟨.inr (.inr rfl), rfl⟩
    · exact ⟨.inl rfl, rfl⟩
  · rintro ⟨rfl | rfl | rfl, rfl⟩
    · exact ⟨_, ['t'], [], [], rfl, rfl, ⟨_, [], [], [], rfl, rfl, ⟨rfl, rfl⟩, .inr ⟨rfl, rfl⟩⟩,
        rfl, rfl⟩
    · exact ⟨_, ['t'], [], [], rfl, rfl, ⟨_, ['\''], [], [], rfl, rfl, ⟨rfl, rfl⟩,
        .inl ⟨⟨_, rfl, rfl⟩, rfl⟩⟩, rfl, rfl⟩
    · exact ⟨_, ['t'], [], [], rfl, rfl, ⟨_, ['’'], [], [], rfl, rfl, ⟨rfl, rfl⟩,
        .inl ⟨⟨_, rfl, rfl⟩, rfl⟩⟩, rfl, rfl⟩

theorem spells_article_iff : article.Spells prev s rest xs ↔
    (∃ a, s = articleText a ∧ ∀ g ∈ a, IsGap g ∧ ∀ c ∈ rest.head?, isBlank c = false) ∧
      xs = [] := by
  constructor
  · rintro (⟨_, _, _, _, rfl, rfl, ⟨rfl, rfl⟩, spells⟩ | ⟨rfl, rfl⟩)
    · obtain ⟨⟨gap, stop⟩, rfl⟩ := spells_blanks_iff.mp spells
      refine ⟨⟨some _, rfl, ?_⟩, rfl⟩
      rintro g ⟨⟩
      exact ⟨gap, stop⟩
    · refine ⟨⟨none, rfl, ?_⟩, rfl⟩
      rintro g ⟨⟩
  · rintro ⟨⟨a, rfl, gaps⟩, rfl⟩
    cases a with
    | none => exact .inr ⟨rfl, rfl⟩
    | some g =>
      exact .inl ⟨['a'], g, [], [], rfl, rfl, ⟨rfl, rfl⟩,
        spells_blanks_iff.mpr ⟨gaps g rfl, rfl⟩⟩

theorem spells_counted_iff {noun : String} : (counted noun).Spells prev s rest xs ↔
    (s = noun.toList ∨ s = noun.toList ++ ['s']) ∧ xs = [] := by
  constructor
  · rintro ⟨_, _, _, _, rfl, rfl, ⟨rfl, rfl⟩, ⟨rfl, rfl⟩ | ⟨rfl, rfl⟩⟩
    · exact ⟨.inr rfl, rfl⟩
    · exact ⟨.inl (List.append_nil _), rfl⟩
  · rintro ⟨rfl | rfl, rfl⟩
    · exact ⟨_, [], [], [], (List.append_nil _).symm, rfl, ⟨rfl, rfl⟩, .inr ⟨rfl, rfl⟩⟩
    · exact ⟨_, ['s'], [], [], rfl, rfl, ⟨rfl, rfl⟩, .inl ⟨rfl, rfl⟩⟩

/-! ## Denials -/

/-- What the pattern of denials stands for between its boundaries. -/
inductive Denial : List Char → Prop where
  | opposite {joint : List Char} (h : IsJoint joint) :
    Denial ("non".toList ++ (joint ++ "palindromic".toList))
  | singular {w gap : List Char} {a : Option (List Char)}
    (known : w ∈ "not".toList :: shortened "isn") (gap_blank : IsGap gap)
    (article_blank : ∀ g ∈ a, IsGap g) :
    Denial (w ++ (gap ++ (articleText a ++ "palindrome".toList)))
  | plural {w gap : List Char} {cue : String} (known : w ∈ shortened "aren")
    (gap_blank : IsGap gap) (asked : cue = "palindrome" ∨ cue = "palindromes") :
    Denial (w ++ (gap ++ cue.toList))

theorem spells_joint_iff :
    (maybe (oneOf (Pattern.text "-") [.char .blank])).Spells prev s rest xs ↔
      IsJoint s ∧ xs = [] := by
  constructor
  · rintro ((⟨rfl, rfl⟩ | ⟨⟨c, rfl, blank⟩, rfl⟩) | ⟨rfl, rfl⟩)
    · exact ⟨.inr (.inl rfl), rfl⟩
    · exact ⟨.inr (.inr ⟨c, blank, rfl⟩), rfl⟩
    · exact ⟨.inl rfl, rfl⟩
  · rintro ⟨rfl | rfl | ⟨c, blank, rfl⟩, rfl⟩
    · exact .inr ⟨rfl, rfl⟩
    · exact .inl (.inl ⟨rfl, rfl⟩)
    · exact .inl (.inr ⟨⟨c, rfl, blank⟩, rfl⟩)

/-- A negation, blanks, the article if there is one, and the singular. -/
theorem spells_singular_iff {p : Pattern} {ws : List (List Char)}
    (hp : ∀ {prev s rest xs}, p.Spells prev s rest xs ↔ s ∈ ws ∧ xs = []) :
    (p ++ blanks ++ article ++ Pattern.text "palindrome").Spells prev s rest xs ↔
      (∃ w ∈ ws, ∃ gap a, IsGap gap ∧ (∀ g ∈ a, IsGap g) ∧
        s = w ++ (gap ++ (articleText a ++ "palindrome".toList))) ∧ xs = [] := by
  constructor
  · rintro ⟨_, _, _, _, rfl, rfl, ⟨_, _, _, _, rfl, rfl, ⟨_, _, _, _, rfl, rfl, word, space⟩,
      art⟩, rfl, rfl⟩
    obtain ⟨known, rfl⟩ := hp.mp word
    obtain ⟨⟨gap, _⟩, rfl⟩ := spells_blanks_iff.mp space
    obtain ⟨⟨a, rfl, gaps⟩, rfl⟩ := spells_article_iff.mp art
    refine ⟨⟨_, known, _, a, gap, fun g mem => (gaps g mem).1, ?_⟩, rfl⟩
    rw [List.append_assoc, List.append_assoc]
  · rintro ⟨⟨w, known, gap, a, blank, gaps, rfl⟩, rfl⟩
    refine ⟨w ++ (gap ++ articleText a), _, [], [], ?_, rfl, ?_, rfl, rfl⟩
    · rw [List.append_assoc, List.append_assoc]
    · refine ⟨w ++ gap, articleText a, [], [], (List.append_assoc _ _ _).symm, rfl, ?_, ?_⟩
      · refine ⟨w, gap, [], [], rfl, rfl, hp.mpr ⟨known, rfl⟩,
          spells_blanks_iff.mpr ⟨⟨blank, ?_⟩, rfl⟩⟩
        -- the run of blanks ends at the article or at the cue
        cases a with
        | none => rintro c ⟨⟩; rfl
        | some g => rintro c ⟨⟩; rfl
      · refine spells_article_iff.mpr ⟨⟨a, rfl, fun g mem => ⟨gaps g mem, ?_⟩⟩, rfl⟩
        rintro c ⟨⟩
        rfl

theorem spells_not_iff : (Pattern.text "not").Spells prev s rest xs ↔
    s ∈ ["not".toList] ∧ xs = [] := by
  rw [List.mem_singleton]
  rfl

theorem spells_plural_iff :
    (contracted "aren" ++ blanks ++ counted "palindrome").Spells prev s rest xs ↔
      (∃ w ∈ shortened "aren", ∃ gap cue, IsGap gap ∧
        (cue = "palindrome" ∨ cue = "palindromes") ∧ s = w ++ (gap ++ cue.toList)) ∧ xs = [] := by
  constructor
  · rintro ⟨_, _, _, _, rfl, rfl, ⟨_, _, _, _, rfl, rfl, word, space⟩, noun⟩
    obtain ⟨known, rfl⟩ := spells_contracted_iff.mp word
    obtain ⟨⟨gap, _⟩, rfl⟩ := spells_blanks_iff.mp space
    obtain ⟨cue, rfl⟩ := spells_counted_iff.mp noun
    rcases cue with rfl | rfl
    · exact ⟨⟨_, known, _, "palindrome", gap, .inl rfl, List.append_assoc _ _ _⟩, rfl⟩
    · exact ⟨⟨_, known, _, "palindromes", gap, .inr rfl, List.append_assoc _ _ _⟩, rfl⟩
  · rintro ⟨⟨w, known, gap, cue, blank, asked, rfl⟩, rfl⟩
    refine ⟨w ++ gap, cue.toList, [], [], (List.append_assoc _ _ _).symm, rfl,
      ⟨w, gap, [], [], rfl, rfl, spells_contracted_iff.mpr ⟨known, rfl⟩,
        spells_blanks_iff.mpr ⟨⟨blank, ?_⟩, rfl⟩⟩, spells_counted_iff.mpr ⟨?_, rfl⟩⟩
    · rcases asked with rfl | rfl <;> rintro c ⟨⟩ <;> rfl
    · rcases asked with rfl | rfl
      · exact .inl rfl
      · exact .inr rfl

theorem head?_append_isWord {w t : List Char} (h : w.head?.any isWord = true) :
    (w ++ t).head?.any isWord = true := by
  cases w with
  | nil => cases h
  | cons c w => exact h

theorem lastOf_isWord {w : List Char} (h : w.getLast?.any isWord = true) :
    (lastOf prev w).any isWord = true := by
  rw [lastOf]
  cases last : w.getLast? with
  | none =>
    rw [last] at h
    cases h
  | some c =>
    rw [last] at h
    exact h

theorem lastOf_append_isWord {t w : List Char} (h : w.getLast?.any isWord = true) :
    (lastOf prev (t ++ w)).any isWord = true := by
  rw [lastOf_append]
  exact lastOf_isWord h

theorem cue_cases {cue : String} (h : cue ∈ cues) :
    cue = "palindrome" ∨ cue = "palindromes" ∨ cue = "palindromic" := by
  simpa [cues] using h

theorem negations_isWord : ∀ w ∈ negations, w.head?.any isWord = true := by decide

theorem negations_of_singular {w : List Char} (h : w ∈ "not".toList :: shortened "isn") :
    w ∈ negations := by
  rcases List.mem_cons.mp h with same | mem
  · exact List.mem_cons.mpr (.inl same)
  · exact List.mem_cons_of_mem _ (List.mem_append_left _ mem)

theorem negations_of_plural {w : List Char} (h : w ∈ shortened "aren") : w ∈ negations :=
  List.mem_cons_of_mem _ (List.mem_append_right _ h)

theorem Denial.isWord {s : List Char} (h : Denial s) (prev : Option Char) (rest : List Char) :
    (s ++ rest).head?.any Text.isWord = true ∧ (lastOf prev s).any Text.isWord = true := by
  cases h with
  | opposite joint =>
    refine ⟨head?_append_isWord (head?_append_isWord rfl), ?_⟩
    rw [← List.append_assoc]
    exact lastOf_append_isWord rfl
  | singular known gap article =>
    refine ⟨head?_append_isWord (head?_append_isWord
      (negations_isWord _ (negations_of_singular known))), ?_⟩
    rw [← List.append_assoc, ← List.append_assoc]
    exact lastOf_append_isWord rfl
  | plural known gap asked =>
    refine ⟨head?_append_isWord (head?_append_isWord
      (negations_isWord _ (negations_of_plural known))), ?_⟩
    rw [← List.append_assoc]
    rcases asked with rfl | rfl <;> exact lastOf_append_isWord rfl

/-- The part of the pattern of denials between its boundaries. -/
theorem spells_denial_iff : (oneOf
    (Pattern.text "non" ++ maybe (oneOf (Pattern.text "-") [.char .blank]) ++
      Pattern.text "palindromic")
    [Pattern.text "not" ++ blanks ++ article ++ Pattern.text "palindrome",
     contracted "isn" ++ blanks ++ article ++ Pattern.text "palindrome",
     contracted "aren" ++ blanks ++ counted "palindrome"]).Spells prev s rest xs ↔
    Denial s ∧ xs = [] := by
  rw [spells_oneOf_iff]
  constructor
  · rintro ⟨q, mem, spells⟩
    rcases List.mem_cons.mp mem with rfl | mem
    · obtain ⟨_, _, _, _, rfl, rfl, ⟨_, _, _, _, rfl, rfl, ⟨rfl, rfl⟩, between⟩, rfl, rfl⟩ := spells
      obtain ⟨joint, rfl⟩ := spells_joint_iff.mp between
      rw [List.append_assoc]
      exact ⟨.opposite joint, rfl⟩
    rcases List.mem_cons.mp mem with rfl | mem
    · obtain ⟨⟨w, known, gap, a, blank, gaps, rfl⟩, rfl⟩ :=
        (spells_singular_iff spells_not_iff).mp spells
      exact ⟨.singular (List.mem_cons.mpr (.inl (List.mem_singleton.mp known))) blank gaps, rfl⟩
    rcases List.mem_cons.mp mem with rfl | mem
    · obtain ⟨⟨w, known, gap, a, blank, gaps, rfl⟩, rfl⟩ :=
        (spells_singular_iff spells_contracted_iff).mp spells
      exact ⟨.singular (List.mem_cons_of_mem _ known) blank gaps, rfl⟩
    · obtain rfl := List.mem_singleton.mp mem
      obtain ⟨⟨w, known, gap, cue, blank, asked, rfl⟩, rfl⟩ := spells_plural_iff.mp spells
      exact ⟨.plural known blank asked, rfl⟩
  · rintro ⟨denial, rfl⟩
    cases denial with
    | @opposite joint h =>
      refine ⟨_, List.mem_cons_self, "non".toList ++ joint, _, [], [], ?_, rfl,
        ⟨_, joint, [], [], rfl, rfl, ⟨rfl, rfl⟩, spells_joint_iff.mpr ⟨h, rfl⟩⟩, rfl, rfl⟩
      rw [List.append_assoc]
    | @singular w gap a known blank gaps =>
      rcases List.mem_cons.mp known with rfl | known
      · exact ⟨_, List.mem_cons_of_mem _ List.mem_cons_self, (spells_singular_iff
          spells_not_iff).mpr ⟨⟨_, List.mem_cons_self, gap, a, blank, gaps, rfl⟩, rfl⟩⟩
      · exact ⟨_, List.mem_cons_of_mem _ (List.mem_cons_of_mem _ List.mem_cons_self),
          (spells_singular_iff spells_contracted_iff).mpr
            ⟨⟨w, known, gap, a, blank, gaps, rfl⟩, rfl⟩⟩
    | @plural w gap cue known blank asked =>
      exact ⟨_, List.mem_cons_of_mem _ (List.mem_cons_of_mem _ (List.mem_cons_of_mem _
        List.mem_cons_self)), spells_plural_iff.mpr
          ⟨⟨w, known, gap, cue, blank, asked, rfl⟩, rfl⟩⟩

theorem palindromeDenied_spells_iff : palindromeDenied.Spells prev s rest xs ↔
    (Denial s ∧ xs = []) ∧ prev.any isWord = false ∧ rest.head?.any isWord = false := by
  have ends : Denial s → ((prev.any isWord ≠ (s ++ rest).head?.any isWord ∧
      (lastOf prev s).any isWord ≠ rest.head?.any isWord) ↔
        prev.any isWord = false ∧ rest.head?.any isWord = false) := by
    intro denial
    obtain ⟨first, last⟩ := denial.isWord prev rest
    rw [first, last]
    cases prev.any isWord <;> cases rest.head?.any isWord <;> decide
  rw [palindromeDenied, spells_bounded_iff, spells_denial_iff]
  constructor
  · rintro ⟨denial, bounded⟩
    exact ⟨denial, (ends denial.1).mp bounded⟩
  · rintro ⟨denial, whole⟩
    exact ⟨denial, (ends denial.1).mpr whole⟩

/-! ## Occurrences -/

theorem lastOf_none (s : List Char) : lastOf none s = s.getLast? := Option.or_none

theorem palindromeDenied_iff : palindromeDenied.occursIn s = true ↔ IsDenied s := by
  rw [occursIn_iff]
  constructor
  · rintro ⟨before, _, after, xs, rfl, _, spells⟩
    obtain ⟨⟨denial, _⟩, opens, closes⟩ := palindromeDenied_spells_iff.mp spells
    rw [lastOf_none] at opens
    cases denial with
    | @opposite joint h =>
      refine .inl ⟨before, joint, after, ?_, h, opens, closes⟩
      rw [List.append_assoc, List.append_assoc]
    | @singular w gap a known blank gaps =>
      refine .inr ⟨⟨before, w, gap, a, "palindrome", after, negations_of_singular known,
        List.mem_cons_self, blank, gaps, opens, closes⟩, .inl ⟨known, rfl⟩, ?_⟩
      simp only [NegatedCue.text, List.append_assoc]
    | @plural w gap cue known blank asked =>
      have listed : cue ∈ cues := by rcases asked with rfl | rfl <;> decide
      have noun : cue ≠ "palindromic" := by rcases asked with rfl | rfl <;> decide
      refine .inr ⟨⟨before, w, gap, none, cue, after, negations_of_plural known, listed, blank,
        by rintro g ⟨⟩, opens, closes⟩, .inr ⟨known, rfl, noun⟩, ?_⟩
      simp only [NegatedCue.text, articleText, List.nil_append, List.append_assoc]
  · rintro (⟨before, joint, after, rfl, h, opens, closes⟩ | ⟨n, covered, rfl⟩)
    · refine ⟨before, _, after, [], ?_, ?_, palindromeDenied_spells_iff.mpr
        ⟨⟨.opposite h, rfl⟩, by rwa [lastOf_none], closes⟩⟩
      · simp only [List.append_assoc]
      · exact List.cons_ne_nil _ _
    · obtain ⟨before, w, gap, a, cue, after, known, asked, blank, gaps, opens, closes⟩ := n
      have nonempty : w ≠ [] := by
        rintro rfl
        exact absurd (negations_isWord _ known) (by decide)
      rcases covered with ⟨known, rfl⟩ | ⟨known, rfl, notAdjective⟩
      · refine ⟨before, _, after, [], ?_, ?_, palindromeDenied_spells_iff.mpr
          ⟨⟨.singular known blank gaps, rfl⟩, by rwa [lastOf_none], closes⟩⟩
        · simp only [NegatedCue.text, List.append_assoc]
        · simp [nonempty]
      · have plural : cue = "palindrome" ∨ cue = "palindromes" := by
          rcases cue_cases asked with same | same | same
          · exact .inl same
          · exact .inr same
          · exact absurd same notAdjective
        refine ⟨before, _, after, [], ?_, ?_, palindromeDenied_spells_iff.mpr
          ⟨⟨.plural known blank plural, rfl⟩, by rwa [lastOf_none], closes⟩⟩
        · simp only [NegatedCue.text, articleText, List.nil_append, List.append_assoc]
        · simp [nonempty]

theorem lastOf_append_gap {t gap : List Char} (h : IsGap gap) :
    (lastOf prev (t ++ gap)).any isWord = false := by
  rw [lastOf_append, lastOf_of_ne_nil h.1]
  exact isWord_of_isBlank (h.2 _ (List.getLast_mem h.1))

theorem palindromeAsked_spells_cue {cue : String} (h : cue ∈ cues) (opens : prev.any isWord = false)
    (closes : rest.head?.any isWord = false) : palindromeAsked.Spells prev cue.toList rest [] := by
  have whole : ∀ w : String, w.toList.head?.any isWord = true →
      w.toList.getLast?.any isWord = true →
        prev.any isWord ≠ (w.toList ++ rest).head?.any isWord ∧
          (lastOf prev w.toList).any isWord ≠ rest.head?.any isWord := by
    intro w first last
    rw [opens, closes, head?_append_isWord first, lastOf_isWord last]
    decide
  rw [palindromeAsked, spells_bounded_iff, spells_oneOf_iff]
  rcases cue_cases h with rfl | rfl | rfl
  · exact ⟨⟨_, List.mem_cons_of_mem _ List.mem_cons_self, spells_counted_iff.mpr ⟨.inl rfl, rfl⟩⟩,
      whole "palindrome" (by decide) (by decide)⟩
  · exact ⟨⟨_, List.mem_cons_of_mem _ List.mem_cons_self, spells_counted_iff.mpr ⟨.inr rfl, rfl⟩⟩,
      whole "palindromes" (by decide) (by decide)⟩
  · exact ⟨⟨_, List.mem_cons_self, rfl, rfl⟩, whole "palindromic" (by decide) (by decide)⟩

/-- A negated cue is also an affirmative one: the negation before it is not looked at. -/
theorem palindromeAsked_negatedCue (n : NegatedCue) : palindromeAsked.occursIn n.text = true := by
  obtain ⟨before, w, gap, a, cue, after, _, asked, blank, gaps, _, closes⟩ := n
  have opens : (lastOf none (before ++ (w ++ (gap ++ articleText a)))).any isWord = false := by
    cases a with
    | none =>
      rw [articleText, List.append_nil, ← List.append_assoc]
      exact lastOf_append_gap blank
    | some g =>
      rw [articleText, ← List.singleton_append, ← List.append_assoc, ← List.append_assoc,
        ← List.append_assoc]
      exact lastOf_append_gap (gaps g rfl)
  refine occursIn_iff.mpr ⟨before ++ (w ++ (gap ++ articleText a)), cue.toList, after, [], ?_, ?_,
    palindromeAsked_spells_cue asked opens closes⟩
  · simp only [NegatedCue.text, List.append_assoc]
  · rcases cue_cases asked with rfl | rfl | rfl <;> exact List.cons_ne_nil _ _

/--
What a text with a negated cue asks for where nothing has asked for palindromes before: none of
them if a denial is understood, and palindromes if not.
-/
theorem readPalindrome_negatedCue (n : NegatedCue) {f : Filter} (h : f.isPalindrome ≠ some true) :
    ((readPalindrome n.text f).isPalindrome = some false ↔
      f.isPalindrome = some false ∨ IsDenied n.text) ∧
    ((readPalindrome n.text f).isPalindrome = some true ↔
      f.isPalindrome = none ∧ ¬IsDenied n.text) := by
  have asked := palindromeAsked_negatedCue n
  unfold readPalindrome
  by_cases denied : IsDenied n.text
  · rw [if_pos (palindromeDenied_iff.mpr denied)]
    simp [denied]
  · rw [if_neg fun occurs => denied (palindromeDenied_iff.mp occurs)]
    cases flag : f.isPalindrome with
    | none =>
      rw [if_pos ⟨rfl, asked⟩]
      simp [denied]
    | some b =>
      rw [if_neg (by simp)]
      cases b with
      | true => exact absurd flag h
      | false => simp [flag, denied]

def notPalindromes : NegatedCue :=
  ⟨[], "not".toList, [' '], none, "palindromes", [], by decide, by decide, by decide,
    by rintro g ⟨⟩, rfl, rfl⟩

/-- The plural after `not` is no denial that is understood, and so it asks for palindromes. -/
theorem readPalindrome_not_palindromes :
    (readPalindrome "not palindromes".toList Filter.empty).isPalindrome = some true ∧
      ¬∀ (n : NegatedCue) (f : Filter), f.isPalindrome ≠ some true →
        (readPalindrome n.text f).isPalindrome = some false := by
  have inverted : (readPalindrome notPalindromes.text Filter.empty).isPalindrome = some true := rfl
  refine ⟨inverted, fun all => ?_⟩
  have kept := all notPalindromes Filter.empty (by decide)
  rw [inverted] at kept
  cases kept

def notAPalindrome : NegatedCue :=
  ⟨[], "not".toList, [' '], some [' '], "palindrome", [], by decide, by decide,
    by decide, by rintro g ⟨⟩; decide, rfl, rfl⟩

theorem readPalindrome_not_a_palindrome :
    Filter.empty.isPalindrome ≠ some true ∧
      (readPalindrome notAPalindrome.text Filter.empty).isPalindrome = some false ∧
      (readPalindrome notAPalindrome.text Filter.empty).isPalindrome ≠ some true := by
  have unset : Filter.empty.isPalindrome ≠ some true := by decide
  have denied : IsDenied notAPalindrome.text :=
    .inr ⟨notAPalindrome, .inl ⟨List.mem_cons_self, rfl⟩, rfl⟩
  obtain ⟨none_of_them, palindromes⟩ := readPalindrome_negatedCue notAPalindrome unset
  exact ⟨unset, none_of_them.mpr (.inr denied), fun asked => (palindromes.mp asked).2 denied⟩

end Query
end TextCatalog
