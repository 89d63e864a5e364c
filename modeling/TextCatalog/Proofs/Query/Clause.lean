import TextCatalog.Proofs.Pattern.Openers
import TextCatalog.Proofs.Text.Classes
import TextCatalog.Query.Reading

/-!
# TextCatalog.Proofs.Query.Clause

Clauses of a query, and how a search goes through a text that is made of them.

* `Clause`, `Clause.text`, `clausesText` — clauses, alone and joined by `and`.
* `IsConflicting`, `asked` — what clauses mean together.
* `scan_clause` — a search passes over a clause whose words its pattern does not start.
* `Reads`, `findAll_clauses` — what a search finds in every clause, it finds in all of them and
  nothing else: no match begins in one clause and ends in another.
-/

namespace TextCatalog
namespace Query

open Pattern Text

inductive CountWord where
  | one
  | single
  | double
  | triple
  | two
  | three
  | four
  | five
  | six
  | seven
  | eight
  | nine
  | ten
  deriving DecidableEq

namespace CountWord

def word : CountWord → String
  | one => "one"
  | single => "single"
  | double => "double"
  | triple => "triple"
  | two => "two"
  | three => "three"
  | four => "four"
  | five => "five"
  | six => "six"
  | seven => "seven"
  | eight => "eight"
  | nine => "nine"
  | ten => "ten"

def value : CountWord → Nat
  | one | single => 1
  | double | two => 2
  | triple | three => 3
  | four => 4
  | five => 5
  | six => 6
  | seven => 7
  | eight => 8
  | nine => 9
  | ten => 10

end CountWord

abbrev Letter := { c : Char // 'a' ≤ c ∧ c ≤ 'z' }

inductive Clause where
  | longer (n : Fin counts)
  | shorter (n : Fin counts)
  | atLeast (n : Fin counts)
  | atMost (n : Fin counts)
  | between (n m : Fin counts)
  | palindromic
  | nonPalindromic
  | words (k : CountWord)
  | letter (c : Letter)
  deriving DecidableEq

/-- A word of a clause. -/
inductive Token where
  | fixed (w : String)
  | number (n : Nat)
  | letter (c : Letter)

def Token.text : Token → List Char
  | fixed w => w.toList
  | number n => numeral n
  | letter c => [c.val]

namespace Clause

def text : Clause → List Char
  | longer n => "longer than ".toList ++ numeral n
  | shorter n => "shorter than ".toList ++ numeral n
  | atLeast n => "at least ".toList ++ numeral n
  | atMost n => "at most ".toList ++ numeral n
  | between n m => "between ".toList ++ (numeral n ++ (" and ".toList ++ numeral m))
  | palindromic => "palindromic".toList
  | nonPalindromic => "non-palindromic".toList
  | words k => k.word.toList ++ " word strings".toList
  | letter c => "containing the letter ".toList ++ [c.val]

def tokens : Clause → List Token
  | longer n => [.fixed "longer", .fixed "than", .number n]
  | shorter n => [.fixed "shorter", .fixed "than", .number n]
  | atLeast n => [.fixed "at", .fixed "least", .number n]
  | atMost n => [.fixed "at", .fixed "most", .number n]
  | between n m => [.fixed "between", .number n, .fixed "and", .number m]
  | palindromic => [.fixed "palindromic"]
  | nonPalindromic => [.fixed "non", .fixed "palindromic"]
  | words k => [.fixed k.word, .fixed "word", .fixed "strings"]
  | letter c => [.fixed "containing", .fixed "the", .fixed "letter", .letter c]

def separator : Clause → Char
  | nonPalindromic => '-'
  | _ => ' '

end Clause

def clausesText : List Clause → List Char
  | [] => []
  | [c] => c.text
  | c :: cs => c.text ++ (" and ".toList ++ clausesText cs)

/-! ## What clauses ask for -/

namespace Clause

def longer? : Clause → Option Nat
  | longer n => some n.val
  | _ => none

def shorter? : Clause → Option Nat
  | shorter n => some n.val
  | _ => none

def atLeast? : Clause → Option Nat
  | atLeast n => some n.val
  | _ => none

def atMost? : Clause → Option Nat
  | atMost n => some n.val
  | _ => none

def between? : Clause → Option (Nat × Nat)
  | between n m => some (n.val, m.val)
  | _ => none

def countWord? : Clause → Option CountWord
  | words k => some k
  | _ => none

def letter? : Clause → Option Letter
  | letter c => some c
  | _ => none

end Clause

def ranges (cs : List Clause) : List (Nat × Nat) := cs.filterMap Clause.between?

/-- The last range stands in the place of all clauses with `longer`. -/
def low (cs : List Clause) : Option Nat :=
  match (ranges cs).getLast? with
  | some r => some r.1
  | none => ((cs.filterMap Clause.longer?).map fun n => min (n + 1) countMax).max?

/-- The last range stands in the place of all clauses with `shorter`. -/
def high (cs : List Clause) : Option Nat :=
  match (ranges cs).getLast? with
  | some r => some r.2
  | none => ((cs.filterMap Clause.shorter?).map (· - 1)).min?

def least (cs : List Clause) : Option Nat := ((low cs).toList ++ cs.filterMap Clause.atLeast?).max?

def most (cs : List Clause) : Option Nat := ((high cs).toList ++ cs.filterMap Clause.atMost?).min?

/-- Some clause alone asks for what no text can have. -/
def IsRefused (cs : List Clause) : Prop :=
  0 ∈ cs.filterMap Clause.shorter? ∨ ∃ r ∈ ranges cs, r.2 ≤ r.1

/-- Some clause alone, or the bounds of all of them, ask for what no text can have. -/
def IsConflicting (cs : List Clause) : Prop :=
  IsRefused cs ∨ ∃ min ∈ least cs, ∃ max ∈ most cs, max < min

instance (cs : List Clause) : Decidable (IsRefused cs) :=
  inferInstanceAs (Decidable (0 ∈ cs.filterMap Clause.shorter? ∨ ∃ r ∈ ranges cs, r.2 ≤ r.1))

instance (cs : List Clause) : Decidable (IsConflicting cs) :=
  inferInstanceAs (Decidable (IsRefused cs ∨ ∃ min ∈ least cs, ∃ max ∈ most cs, max < min))

def asked (cs : List Clause) : Filter where
  isPalindrome :=
    if .nonPalindromic ∈ cs then some false
    else if .palindromic ∈ cs then some true
    else none
  minLength := least cs
  maxLength := most cs
  wordCount := (cs.findSome? Clause.countWord?).map CountWord.value
  containsCharacter := (cs.filterMap Clause.letter?).getLast?.map (·.val)

/-! ## Passing over clauses -/

theorem clausesText_cons (c : Clause) (cs : List Clause) : ∃ rest, clausesText (c :: cs) =
    c.text ++ rest ∧ rest.head?.any isWord = false := by
  cases cs with
  | nil => exact ⟨[], (List.append_nil _).symm, rfl⟩
  | cons d cs => exact ⟨_, rfl, isWord_space⟩

theorem text_eq_joined (c : Clause) : c.text = joined c.separator (c.tokens.map Token.text) := by
  cases c with
  | words k =>
    show _ = k.word.toList ++ ' ' :: joined ' ' ["word".toList, "strings".toList]
    rfl
  | _ => rfl

theorem separator_other (c : Clause) : isWord c.separator = false := by
  cases c with
  | nonPalindromic => decide
  | _ => exact isWord_space

theorem numeral_isWord (n : Nat) : IsWord (numeral n) :=
  ⟨numeral_ne_nil n, fun c mem => isWord_of_digit (numeral_isDigit c mem)⟩

theorem letter_isWord (c : Letter) : IsWord [c.val] := by
  refine ⟨List.cons_ne_nil _ _, fun d mem => ?_⟩
  rw [List.mem_singleton.mp mem]
  exact isWord_of_latin c.2.1 c.2.2

def Token.isWord : Token → Bool
  | fixed w => decide (IsWord w.toList)
  | _ => true

theorem Token.text_isWord {t : Token} (h : t.isWord = true) : IsWord t.text := by
  cases t with
  | fixed w => exact of_decide_eq_true h
  | number n => exact numeral_isWord n
  | letter c => exact letter_isWord c

theorem tokens_isWord (c : Clause) : ∀ t ∈ c.tokens, IsWord t.text := by
  have all : c.tokens.all Token.isWord = true := by
    cases c with
    | words k => cases k <;> rfl
    | _ => rfl
  exact fun t mem => Token.text_isWord (List.all_eq_true.mp all t mem)

/-- The pattern starts in words of two letters or more, and not in the word between clauses. -/
structure StartsPlainly (p : Pattern) : Prop where
  words : p.StartsWords
  long : ∀ v ∈ p.leads, 2 ≤ v.length ∧ v.head?.any Char.isDigit = false
  joint : p.Avoids "and".toList

instance (p : Pattern) : Decidable (StartsPlainly p) :=
  decidable_of_iff (p.StartsWords ∧
      (∀ v ∈ p.leads, 2 ≤ v.length ∧ v.head?.any Char.isDigit = false) ∧ p.Avoids "and".toList)
    ⟨fun h => ⟨h.1, h.2.1, h.2.2⟩, fun h => ⟨h.words, h.long, h.joint⟩⟩

def Token.isSkippedBy (p : Pattern) : Token → Bool
  | fixed w => p.leads.all fun v => !v.isPrefixOf w.toList
  | _ => true

def Clause.isSkippedBy (p : Pattern) (c : Clause) : Bool := c.tokens.all (Token.isSkippedBy p)

theorem Token.avoids {p : Pattern} (plain : StartsPlainly p) {t : Token}
    (h : t.isSkippedBy p = true) : p.Avoids t.text := by
  intro v mem begins
  obtain ⟨long, notDigit⟩ := plain.long v mem
  cases t with
  | fixed w =>
    have skipped := List.all_eq_true.mp h v mem
    have begins : v <+: w.toList := begins
    rw [List.isPrefixOf_iff_prefix.mpr begins] at skipped
    cases skipped
  | number n =>
    cases v with
    | nil => exact absurd long (by decide)
    | cons c v =>
      have digit := numeral_isDigit c (begins.subset List.mem_cons_self)
      rw [show c.isDigit = false from notDigit] at digit
      cases digit
  | letter c =>
    have short : v.length ≤ 1 := begins.length_le
    omega

variable {p : Pattern} {prev : Option Char} {rest : List Char}

theorem scan_clause (plain : StartsPlainly p) {c : Clause} (skipped : c.isSkippedBy p = true)
    (stop : rest.head?.any isWord = false) (prev : Option Char) :
    ∃ prev', p.scan prev 0 (c.text ++ rest) = p.scan prev' 0 rest := by
  rw [text_eq_joined]
  refine scan_joined plain.words (separator_other c) ?_ ?_ stop prev
  · intro w word
    obtain ⟨t, mem, rfl⟩ := List.mem_map.mp word
    exact tokens_isWord c t mem
  · intro w word
    obtain ⟨t, mem, rfl⟩ := List.mem_map.mp word
    exact Token.avoids plain (List.all_eq_true.mp skipped t mem)

/-! ## Going through all clauses -/

/-- In every clause, the pattern finds what `f` says, and then goes on after the clause. -/
def Reads (p : Pattern) (f : Clause → List Match) : Prop :=
  ∀ (c : Clause) (prev : Option Char) (rest : List Char), prev.any isWord = false →
    rest.head?.any isWord = false →
      ∃ prev', p.scan prev 0 (c.text ++ rest) = f c ++ p.scan prev' 0 rest

/-- Between two clauses nothing is found. -/
theorem scan_and (plain : StartsPlainly p) (prev : Option Char) (rest : List Char) :
    p.scan prev 0 (" and ".toList ++ rest) = p.scan (some ' ') 0 rest := by
  show p.scan prev 0 (' ' :: ("and".toList ++ ' ' :: rest)) = _
  have word : IsWord "and".toList := by decide
  have stop : (' ' :: rest).head?.any isWord = false := isWord_space
  rw [scan_other plain.words isWord_space, scan_word plain.words word plain.joint stop,
    scan_other plain.words isWord_space]

theorem scan_clauses {f : Clause → List Match} (plain : StartsPlainly p) (reads : Reads p f)
    (cs : List Clause) (opens : prev.any isWord = false) :
    p.scan prev 0 (clausesText cs) = cs.flatMap f := by
  induction cs generalizing prev with
  | nil =>
    unfold scan
    rfl
  | cons c cs ih =>
    cases cs with
    | nil =>
      obtain ⟨prev', found⟩ := reads c prev [] opens rfl
      rw [List.append_nil] at found
      have none_left : p.scan prev' 0 [] = [] := by unfold scan; rfl
      rw [clausesText, found, none_left]
      rfl
    | cons d cs =>
      obtain ⟨prev', found⟩ := reads c prev (" and ".toList ++ clausesText (d :: cs)) opens
        isWord_space
      have opens : (some ' ').any isWord = false := isWord_space
      rw [clausesText, found, scan_and plain, ih opens]
      · rfl
      · exact List.cons_ne_nil d cs

theorem findAll_clauses {f : Clause → List Match} (plain : StartsPlainly p) (reads : Reads p f)
    (cs : List Clause) : p.findAll (clausesText cs) = cs.flatMap f :=
  scan_clauses plain reads cs rfl

end Query
end TextCatalog
