import TextCatalog.Text.Case
import TextCatalog.Text.Digits

/-!
# TextCatalog.Query.Vocabulary

The words of a query that stand for numbers and letters. The vocabulary is closed.

* `numberOf?` — the number a token names: by digits, or by a number word, with or without an
  ordinal ending.
* `positionOf?` — the position a token names, counted from one.
* `LetterKind.table` — the letters of a kind, by position.
-/

namespace TextCatalog
namespace Query

open Text

def numberWords : List (String × Nat) := [
  ("one", 1), ("single", 1), ("double", 2), ("triple", 3), ("two", 2), ("three", 3),
  ("four", 4), ("five", 5), ("six", 6), ("seven", 7), ("eight", 8), ("nine", 9), ("ten", 10),
  ("eleven", 11), ("twelve", 12), ("thirteen", 13), ("fourteen", 14), ("fifteen", 15),
  ("sixteen", 16), ("seventeen", 17), ("eighteen", 18), ("nineteen", 19), ("twenty", 20)]

def positionWords : List (String × Nat) :=
  [("first", 1), ("second", 2), ("third", 3), ("fourth", 4), ("fifth", 5)]

def ordinalEndings : List String := ["st", "nd", "rd", "th"]

def lookup (table : List (String × Nat)) (word : List Char) : Option Nat :=
  (table.find? fun entry => entry.1.toList == word).map (·.2)

def dropEnding? (ending : String) (word : List Char) : Option (List Char) :=
  if ending.toList <:+ word then some (word.take (word.length - ending.length)) else none

/-- A word without its ordinal ending, if it has one. -/
def stem (word : List Char) : List Char :=
  (ordinalEndings.findSome? fun ending => dropEnding? ending word).getD word

/-- Digits count as far as they go, whatever follows them. -/
def numberOf? (token : List Char) : Option Nat :=
  let word := stem (lowercase token)
  (count? (leadingDigits word)).or (lookup numberWords word)

def positionOf? (token : List Char) : Option Nat :=
  match numberOf? token with
  | some (n + 1) => some (n + 1)
  | _ => lookup positionWords (lowercase token)

def alphabet : List Char := "abcdefghijklmnopqrstuvwxyz".toList

def vowels : List Char := "aeiou".toList

def consonants : List Char := alphabet.filter fun c => !vowels.contains c

inductive LetterKind where
  | vowel
  | consonant
  | letter
  deriving DecidableEq

namespace LetterKind

def table : LetterKind → List Char
  | vowel => vowels
  | consonant => consonants
  | letter => alphabet

def ofWord? (w : List Char) : Option LetterKind :=
  if w = "vowel".toList then some vowel
  else if w = "consonant".toList then some consonant
  else if w = "letter".toList then some letter
  else none

/-- The letter at a position counted from one. -/
def letterAt? (kind : LetterKind) : Option Nat → Option Char
  | some (i + 1) => kind.table[i]?
  | _ => none

end LetterKind

end Query
end TextCatalog
