import TextCatalog.Pattern.Basic

/-!
# TextCatalog.Pattern.Search

Looking for a pattern in a whole text.

* `matchAt` — the preferred match at one place.
* `findAll` — the successive matches: the leftmost one, then the leftmost one past it, and so
  on. The patterns of this library take at least one character.
* `occurrences` — the matches at every place, also where they overlap.
-/

namespace TextCatalog

structure Match where
  text : List Char
  captures : List (List Char)
  deriving DecidableEq

def Match.capture (m : Match) (i : Nat) : List Char := m.captures.getD i []

namespace Pattern

def matchAt (p : Pattern) (prev : Option Char) (s : List Char) : Option Match :=
  match p.ways (Cursor.start prev s) with
  | [] => none
  | c :: _ => some ⟨s.take c.taken, c.captures⟩

/-- The successive matches in `s`, of which the first `skip` characters are already taken. -/
def scan (p : Pattern) (prev : Option Char) (skip : Nat) (s : List Char) : List Match :=
  match s with
  | [] => []
  | c :: cs =>
    match skip with
    | skip + 1 => p.scan (some c) skip cs
    | 0 =>
      match p.matchAt prev (c :: cs) with
      | none => p.scan (some c) 0 cs
      | some m => m :: p.scan (some c) (m.text.length - 1) cs

def findAll (p : Pattern) (s : List Char) : List Match := p.scan none 0 s

def find? (p : Pattern) (s : List Char) : Option Match := (p.findAll s).head?

def findLast? (p : Pattern) (s : List Char) : Option Match := (p.findAll s).getLast?

def occursIn (p : Pattern) (s : List Char) : Bool := (p.find? s).isSome

def occurrencesAfter (p : Pattern) (prev : Option Char) : List Char → List Match
  | [] => []
  | c :: cs => (p.matchAt prev (c :: cs)).toList ++ p.occurrencesAfter (some c) cs

def occurrences (p : Pattern) (s : List Char) : List Match := p.occurrencesAfter none s

end Pattern

end TextCatalog
