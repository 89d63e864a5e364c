import TextCatalog.Filter.Basic
import TextCatalog.Record.Document
import TextCatalog.Table.Error

/-!
# TextCatalog.Table.Row

Records as rows of text and integer columns. The column of the time keeps numbers where it can.

* `Row.ofRecord` — counts that do not fit a column become its greatest number.
* `Row.toRecord` — the record of a row, or its first bad column; a numeric time comes before all.
* `Row.isSelected` — the condition on columns that stands for a filter.
* `Row.inOrder` — by the time, numbers first, then by id.
-/

namespace TextCatalog

open Text

structure Row where
  id : String
  value : String
  length : Int
  isPalindrome : Int
  uniqueCharacters : Int
  wordCount : Int
  sha256Hash : String
  frequencies : String
  createdAt : Cell
  deriving DecidableEq

def columnOfCount (n : Nat) : Int := Nat.min n columnMax

def columnOfFlag (b : Bool) : Int := if b then 1 else 0

def countOfColumn (column : String) : Int → Except ColumnFault Nat
  | .ofNat n => .ok n
  | .negSucc n => .error (.negativeCount column (.negSucc n))

def timeOfColumn (text : String) : Except ColumnFault Instant :=
  (Instant.ofStrictText text).mapError (.malformedTime text)

namespace Row

def ofRecord (r : Record) : Row where
  id := r.id
  value := r.value
  length := columnOfCount r.properties.length
  isPalindrome := columnOfFlag r.properties.isPalindrome
  uniqueCharacters := columnOfCount r.properties.uniqueCharacters
  wordCount := columnOfCount r.properties.wordCount
  sha256Hash := r.properties.sha256Hash
  frequencies := r.properties.frequencies.compact
  createdAt := Cell.ofText r.createdAt.columnText

def toCount (column : String) (n : Int) : Except TableError Nat :=
  (countOfColumn column n).mapError .ofColumn

def toFrequencies (text : String) : Except TableError FrequencyMap :=
  (FrequencyMap.read text.toList).mapError fun f => .json (f.report text.toList)

def toTime (text : String) : Except TableError Instant := (timeOfColumn text).mapError .ofColumn

def timeText : Cell → Except TableError String
  | .text s => .ok s
  | .number n => .error (.ofEngine (.numericTime n.kind))

/-- Any flag that is not zero counts as set. -/
def toRecord (row : Row) : Except TableError Record := do
  let time ← timeText row.createdAt
  let length ← toCount "length" row.length
  let uniqueCharacters ← toCount "unique_characters" row.uniqueCharacters
  let wordCount ← toCount "word_count" row.wordCount
  let frequencies ← toFrequencies row.frequencies
  let createdAt ← toTime time
  return {
    id := row.id
    value := row.value
    properties := {
      length
      isPalindrome := row.isPalindrome != 0
      uniqueCharacters
      wordCount
      sha256Hash := row.sha256Hash
      frequencies }
    createdAt }

def isSelected (f : Filter) (row : Row) : Bool :=
  Filter.onField f.isPalindrome (fun b => row.isPalindrome == columnOfFlag b) &&
  Filter.onField f.minLength (fun n => decide (columnOfCount n ≤ row.length)) &&
  Filter.onField f.maxLength (fun n => decide (row.length ≤ columnOfCount n)) &&
  Filter.onField f.wordCount (fun n => row.wordCount == columnOfCount n) &&
  Filter.onField f.containsCharacter fun c =>
    (row.value.toList.map Char.toLower).contains c.toLower

def inOrder (a b : Row) : Bool :=
  a.createdAt.isBefore b.createdAt ||
    (!b.createdAt.isBefore a.createdAt && decide (a.id ≤ b.id))

end Row

end TextCatalog
