import TextCatalog.Digest.Sha256
import TextCatalog.Instant.Basic
import TextCatalog.Record.FrequencyMap
import TextCatalog.Text.Blank
import TextCatalog.Text.Case

/-!
# TextCatalog.Record.Basic

Catalogued texts, and what is known of them.

* `Properties.ofText` — the properties of a text.
* `isPalindrome` — reads the same both ways, blanks and case apart.
* `Record` — a catalogued text. Its id is the digest of the text, so a text can be catalogued only
  once.
* `isCatalogable` — the texts that may be catalogued on request: Latin letters and blanks, with
  at least one letter.
-/

namespace TextCatalog

open Text

structure Properties where
  length : Nat
  isPalindrome : Bool
  uniqueCharacters : Nat
  wordCount : Nat
  sha256Hash : String
  frequencies : FrequencyMap
  deriving DecidableEq

/-- The characters of a text that are not blank. -/
def inked (s : List Char) : List Char := s.filter fun c => !isBlank c

/-- Each character goes to lower case by itself, whatever stands around it. -/
def folded (s : List Char) : List Char := (inked s).flatMap lowerChar

def isPalindrome (s : List Char) : Bool := folded s == (folded s).reverse

/-- Each character once. -/
def distinct : List Char → List Char
  | [] => []
  | c :: cs => if c ∈ cs then distinct cs else c :: distinct cs

/-- The space is not counted; other blanks are. -/
def frequencies (s : List Char) : FrequencyMap := FrequencyMap.tally (s.filter fun c => c != ' ')

namespace Properties

def ofChars (s : List Char) (hash : String) : Properties where
  length := s.length
  isPalindrome := TextCatalog.isPalindrome s
  uniqueCharacters := (distinct (inked s)).length
  wordCount := (words s).length
  sha256Hash := hash
  frequencies := TextCatalog.frequencies s

def ofText (s : String) : Properties := ofChars s.toList (Sha256.hex s)

end Properties

structure Record where
  id : String
  value : String
  properties : Properties
  createdAt : Instant
  deriving DecidableEq

namespace Record

def idOf (value : String) : String := Sha256.hex value

def ofText (value : String) (createdAt : Instant) : Record :=
  ⟨idOf value, value, Properties.ofText value, createdAt⟩

end Record

def isCatalogableChar (c : Char) : Bool := c.isAlpha || isBlank c

def isCatalogable (s : String) : Bool :=
  let text := trim s.toList
  !text.isEmpty && text.all isCatalogableChar

end TextCatalog
