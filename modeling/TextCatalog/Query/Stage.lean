import TextCatalog.Query.Reading

/-!
# TextCatalog.Query.Stage

The six readings of a query, in the order in which they are taken. Each one reads the whole
text and adds what it finds to the filter.

* `run` — one stage after the other; the first refusal ends the reading.
* `trace` — the filter after each stage, up to the first refusal.
-/

namespace TextCatalog

inductive Stage where
  | palindrome
  | wordCount
  | length
  | ordinalLetter
  | namedLetter
  | exclusion
  deriving DecidableEq

namespace Stage

def all : List Stage := [palindrome, wordCount, length, ordinalLetter, namedLetter, exclusion]

def name : Stage → String
  | palindrome => "palindrome"
  | wordCount => "word_count"
  | length => "length"
  | ordinalLetter => "ordinal_character"
  | namedLetter => "contains_character"
  | exclusion => "negative_contains"

def ofName? (name : String) : Option Stage := all.find? fun stage => stage.name == name

def apply : Stage → List Char → Filter → Except QueryError Filter
  | palindrome, s, f => .ok (Query.readPalindrome s f)
  | wordCount, s, f => .ok (Query.readWordCount s f)
  | length, s, f => Query.readLength s f
  | ordinalLetter, s, f => Query.readOrdinal s f
  | namedLetter, s, f => .ok (Query.readLetter s f)
  | exclusion, s, f => Query.refuseExclusion s f

def run : List Stage → List Char → Filter → Except QueryError Filter
  | [], _, f => .ok f
  | stage :: rest, s, f =>
    match stage.apply s f with
    | .error e => .error e
    | .ok g => run rest s g

def trace : List Stage → List Char → Filter → List (Stage × Except QueryError Filter)
  | [], _, _ => []
  | stage :: rest, s, f =>
    match stage.apply s f with
    | .error e => [(stage, .error e)]
    | .ok g => (stage, .ok g) :: trace rest s g

theorem ofName?_name (stage : Stage) : ofName? stage.name = some stage := by
  cases stage <;> rfl

end Stage

end TextCatalog
