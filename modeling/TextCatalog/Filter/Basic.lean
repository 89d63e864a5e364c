import TextCatalog.Record.Basic

/-!
# TextCatalog.Filter.Basic

The filter over catalogued texts. A field that is not set admits every text.

* `Filter.accepts` — agrees with every field that is set.
-/

namespace TextCatalog

/-- Both length bounds are inclusive. -/
structure Filter where
  isPalindrome : Option Bool := none
  minLength : Option Nat := none
  maxLength : Option Nat := none
  wordCount : Option Nat := none
  containsCharacter : Option Char := none
  deriving DecidableEq, Inhabited

namespace Filter

def empty : Filter := {}

def isEmpty (f : Filter) : Bool := decide (f = empty)

theorem isEmpty_iff {f : Filter} : f.isEmpty = true ↔ f = empty := decide_eq_true_iff

/-- Holds of every value where the field is not set. -/
def onField {α : Type} (field : Option α) (test : α → Bool) : Bool :=
  match field with
  | none => true
  | some a => test a

/-- Equal up to the case of the letters `A` to `Z`. -/
def sameLetter (a b : Char) : Bool := a.toLower == b.toLower

def accepts (f : Filter) (r : Record) : Bool :=
  onField f.isPalindrome (fun b => r.properties.isPalindrome == b) &&
  onField f.minLength (fun n => decide (n ≤ r.properties.length)) &&
  onField f.maxLength (fun n => decide (r.properties.length ≤ n)) &&
  onField f.wordCount (fun n => r.properties.wordCount == n) &&
  onField f.containsCharacter (fun c => r.value.toList.any (sameLetter c))

theorem accepts_empty (r : Record) : empty.accepts r = true := rfl

end Filter

end TextCatalog
