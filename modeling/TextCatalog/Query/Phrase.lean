import TextCatalog.Pattern.Search

/-!
# TextCatalog.Query.Phrase

The phrases that a query can hold.

* `palindromeDenied`, `palindromeAsked` — whether a text reads the same both ways.
* `wordCountPhrase` — how many words, as in `single word` or `two very short strings`.
* `longerPhrase`, `shorterPhrase`, `betweenPhrase`, `atLeastPhrase`, `atMostPhrase` — the length.
* `ordinalPhrase` — a letter by its position, as in `third letter of the alphabet`.
* `letterPhrase`, `exclusionPhrase` — a letter by name, wanted or not.

What a phrase captures, it captures in the order in which it is written.
-/

namespace TextCatalog
namespace Query

open Pattern

/-- The word `not` shortened onto a verb, with either apostrophe or without one. -/
def contracted (verb : String) : Pattern :=
  text verb ++ maybe (.char (.among ['\'', '’'])) ++ text "t"

/-- A verb, alone or with the ending of the third person or of the participle. -/
def inflected (verb : String) : Pattern := text verb ++ maybe (oneWord "s" ["ing"])

/-- A noun in the singular or in the plural. -/
def counted (noun : String) : Pattern := text noun ++ maybe (text "s")

def article : Pattern := maybe (text "a" ++ blanks)

def palindromeDenied : Pattern :=
  .boundary ++
  oneOf
    (text "non" ++ maybe (oneOf (text "-") [.char .blank]) ++ text "palindromic")
    [text "not" ++ blanks ++ article ++ text "palindrome",
     contracted "isn" ++ blanks ++ article ++ text "palindrome",
     contracted "aren" ++ blanks ++ counted "palindrome"] ++
  .boundary

def palindromeAsked : Pattern :=
  .boundary ++
  oneOf
    (text "palindromic")
    [counted "palindrome",
     text "are" ++ blanks ++ counted "palindrome",
     text "is" ++ blanks ++ text "a" ++ blanks ++ text "palindrome"] ++
  .boundary

def wordCountPhrase : Pattern :=
  .boundary ++ maybe (text "all" ++ blanks) ++
  .capture (oneWord "one"
    ["single", "double", "triple", "two", "three", "four", "five", "six", "seven", "eight",
     "nine", "ten"]) ++
  .many (blanks ++ word) ++
  blanks ++ oneWord "word" ["string", "text"] ++ maybe (text "s") ++ .boundary

def comparedTo : Pattern :=
  blanks ++ maybe (counted "word" ++ blanks) ++ maybe (text "than" ++ blanks) ++ .capture word

def longerPhrase : Pattern :=
  .boundary ++
  oneWord "longer" ["greater", "more", "exceeding", "beyond", "higher", "over", "above"] ++
  comparedTo

def shorterPhrase : Pattern :=
  .boundary ++
  oneOf (text "shorter")
    [text "less", text "fewer", text "below", text "under",
     text "not" ++ blanks ++ text "up" ++ blanks ++ text "to"] ++
  comparedTo

def betweenPhrase : Pattern :=
  .boundary ++ oneWord "between" ["from"] ++ blanks ++ .capture word ++
  blanks ++ oneWord "and" ["to"] ++ blanks ++ .capture word

def atLeastPhrase : Pattern :=
  .boundary ++
  oneOf (text "at" ++ blanks ++ text "least") [text "min" ++ maybe (text "imum")] ++
  blanks ++ .capture word

def atMostPhrase : Pattern :=
  .boundary ++
  oneOf (text "at" ++ blanks ++ text "most") [text "max" ++ maybe (text "imum")] ++
  blanks ++ .capture word

def ordinalPhrase : Pattern :=
  maybe (oneOf (inflected "contain")
    [inflected "include", text "has", text "with", text "having",
     text "that" ++ blanks ++ inflected "contain", text "that" ++ blanks ++ text "has"]) ++
  maybe blanks ++ maybe (text "the" ++ blanks) ++
  .capture (oneOf (text "first")
    [text "second", text "third", text "fourth", text "fifth",
     .run .digit ++ oneWord "st" ["nd", "rd", "th"]]) ++
  blanks ++ .capture (oneWord "vowel" ["consonant", "letter"]) ++
  maybe (blanks ++ text "of" ++ maybe (blanks ++ text "the") ++ blanks ++
    .capture (oneWord "word" ["alphabet"]))

def letterPhrase : Pattern :=
  .boundary ++
  oneOf (inflected "contain") [inflected "include", text "has", text "with", text "having"] ++
  blanks ++ maybe (text "the" ++ blanks) ++ maybe (text "letter" ++ blanks) ++
  .capture (.char (.span 'a' 'z')) ++ .boundary

def exclusionPhrase : Pattern :=
  .boundary ++
  oneOf (text "does" ++ blanks ++ text "not")
    [contracted "doesn", text "without", text "excluding", text "not"] ++
  .boundary ++ maybe blanks ++ oneWord "contain" ["include", "have"] ++ .boundary

end Query
end TextCatalog
