import TextCatalog.Filter.Basic
import TextCatalog.Query.Bounds
import TextCatalog.Query.Phrase

/-!
# TextCatalog.Query.Reading

What the phrases in a text say about the filter.

* `readPalindrome` — a phrase that denies decides, wherever it stands.
* `readWordCount` — the first phrase counts.
* `readLength` — five families of phrases, each read over the whole text, one after the other.
* `readOrdinal` — the last phrase counts.
* `readLetter` — the last phrase counts, and only if no letter has been chosen before.
* `refuseExclusion` — no filter can ask for texts without a letter.
-/

namespace TextCatalog
namespace Query

open Pattern

def readPalindrome (s : List Char) (f : Filter) : Filter :=
  if palindromeDenied.occursIn s then { f with isPalindrome := some false }
  else if f.isPalindrome = none ∧ palindromeAsked.occursIn s = true then
    { f with isPalindrome := some true }
  else f

def readWordCount (s : List Char) (f : Filter) : Filter :=
  match (wordCountPhrase.find? s).bind fun m => numberOf? (m.capture 0) with
  | some n => { f with wordCount := some n }
  | none => f

/-- The numbers that the matches of a pattern name; a token that names none is passed over. -/
def numbersOf (p : Pattern) (s : List Char) : List Nat :=
  (p.findAll s).filterMap fun m => numberOf? (m.capture 0)

def rangeOf (m : Match) : Except QueryError Bounds := Bounds.ofRange (m.capture 0) (m.capture 1)

def readBounds (s : List Char) (b : Bounds) : Except QueryError Bounds := do
  let b := (numbersOf longerPhrase s).foldl Bounds.longerThan b
  let b ← (numbersOf shorterPhrase s).foldlM Bounds.shorterThan b
  let b ← (betweenPhrase.findAll s).foldlM (fun _ m => rangeOf m) b
  let b := (numbersOf atLeastPhrase s).foldl Bounds.raise b
  return (numbersOf atMostPhrase s).foldl Bounds.lower b

def readLength (s : List Char) (f : Filter) : Except QueryError Filter := do
  let b ← readBounds s ⟨f.minLength, f.maxLength⟩
  return { f with minLength := b.least, maxLength := b.most }

/-- What an ordinal phrase says, in the order of its captures. -/
structure OrdinalRequest where
  ordinal : List Char
  kind : LetterKind
  ofAlphabet : Bool
  deriving DecidableEq

namespace OrdinalRequest

def ofMatch? (m : Match) : Option OrdinalRequest :=
  (LetterKind.ofWord? (m.capture 1)).map fun kind =>
    ⟨m.capture 0, kind, m.capture 2 == "alphabet".toList⟩

/-- A letter of no alphabet is a letter of some word, which no filter can ask for. -/
def apply (r : OrdinalRequest) (f : Filter) : Except QueryError Filter :=
  if r.kind = .letter ∧ r.ofAlphabet = false then .ok f
  else
    match r.kind.letterAt? (positionOf? r.ordinal) with
    | some c => .ok { f with containsCharacter := some c }
    | none =>
      if r.ofAlphabet then
        .error (.noSuchOrdinal (String.ofList r.ordinal) r.kind.table.length)
      else .ok f

end OrdinalRequest

def readOrdinal (s : List Char) (f : Filter) : Except QueryError Filter :=
  match (ordinalPhrase.findLast? s).bind OrdinalRequest.ofMatch? with
  | none => .ok f
  | some r => r.apply f

def readLetter (s : List Char) (f : Filter) : Filter :=
  match f.containsCharacter with
  | some _ => f
  | none =>
    match (letterPhrase.findLast? s).bind fun m => (m.capture 0).head? with
    | some c => { f with containsCharacter := some c }
    | none => f

def refuseExclusion (s : List Char) (f : Filter) : Except QueryError Filter :=
  match exclusionPhrase.find? s with
  | some m => .error (.exclusion (String.ofList m.text))
  | none => .ok f

end Query
end TextCatalog
