import TextCatalog.Filter.Basic
import TextCatalog.Text.Blank
import TextCatalog.Text.Digits

/-!
# TextCatalog.Filter.Params

Filters as named texts, the way a query string gives them.

* `Params` — names with their texts, each name once.
* `Filter.ofParams` — checks the names, then each text in a fixed order.
* `Filter.toParams` — the texts of the fields that are set.
-/

namespace TextCatalog

open Text

abbrev Params := List (String × String)

def Params.get? (ps : Params) (name : String) : Option String :=
  (ps.find? fun p => p.1 == name).map (·.2)

/-- Names keep their first place and take their last text. -/
def Params.set (ps : Params) (name text : String) : Params :=
  if ps.any fun p => p.1 == name then
    ps.map fun p => if p.1 = name then (name, text) else p
  else ps ++ [(name, text)]

inductive FilterError where
  | unknownNames (names : List String)
  | notFlag
  | notCount (name : String)
  | notLetter
  deriving DecidableEq

namespace FilterError

def invalid (name reason : String) : String := "invalid value for " ++ name ++ ": " ++ reason

def message : FilterError → String
  | unknownNames names => "unknown query parameters: " ++ ", ".intercalate names
  | notFlag => invalid "is_palindrome" "must be \"true\" or \"false\""
  | notCount name => invalid name "must be a non-negative integer"
  | notLetter => invalid "contains_character" "must be a single letter"

end FilterError

namespace Filter

def paramNames : List String :=
  ["is_palindrome", "min_length", "max_length", "word_count", "contains_character"]

def unknownNames (ps : Params) : List String :=
  ((ps.map (·.1)).filter fun name => !paramNames.contains name).mergeSort
    fun a b => decide (a ≤ b)

def readFlag : String → Except FilterError Bool
  | "true" => .ok true
  | "false" => .ok false
  | _ => .error .notFlag

def dropPlus : List Char → List Char
  | '+' :: rest => rest
  | s => s

/-- Blanks around, one plus sign, then digits alone. -/
def countOf? (s : List Char) : Option Nat :=
  let digits := dropPlus (trim s)
  if digits.all Char.isDigit then count? digits else none

def readCount (name text : String) : Except FilterError Nat :=
  match countOf? text.toList with
  | some n => .ok n
  | none => .error (.notCount name)

def readLetter (text : String) : Except FilterError Char :=
  match text.toList with
  | [c] => if c.isAlpha then .ok c else .error .notLetter
  | _ => .error .notLetter

/-- A field stays unset where there is no text for it. -/
def readParam {α : Type} (ps : Params) (name : String) (read : String → Except FilterError α) :
    Except FilterError (Option α) :=
  match ps.get? name with
  | none => .ok none
  | some text => (read text).map some

def ofParams (ps : Params) : Except FilterError Filter := do
  match unknownNames ps with
  | [] =>
    let isPalindrome ← readParam ps "is_palindrome" readFlag
    let minLength ← readParam ps "min_length" (readCount "min_length")
    let maxLength ← readParam ps "max_length" (readCount "max_length")
    let wordCount ← readParam ps "word_count" (readCount "word_count")
    let containsCharacter ← readParam ps "contains_character" readLetter
    return { isPalindrome, minLength, maxLength, wordCount, containsCharacter }
  | names => throw (.unknownNames names)

def flagText (b : Bool) : String := if b then "true" else "false"

def param {α : Type} (name : String) (toText : α → String) : Option α → Params
  | none => []
  | some a => [(name, toText a)]

def toParams (f : Filter) : Params :=
  param "is_palindrome" flagText f.isPalindrome ++
  param "min_length" toString f.minLength ++
  param "max_length" toString f.maxLength ++
  param "word_count" toString f.wordCount ++
  param "contains_character" Char.toString f.containsCharacter

end Filter

end TextCatalog
