import TextCatalog.Text.Blank
import TextCatalog.Text.Word

/-!
# TextCatalog.Pattern.Basic

Phrase patterns and the ways in which a pattern matches at one place of a text.

* `CharClass` — the classes of characters that patterns name.
* `Pattern` — literals, classes, maximal runs, word boundaries, sequences, ordered choices,
  repetitions and captures.
* `Cursor` — a place reached while matching, with what was captured on the way.
* `ways` — all places a pattern can reach, the preferred one first.

Preference is by position in the pattern: an earlier choice before a later one, more
repetitions before fewer. A run over a class takes all it can and gives nothing back, so it
suits the places where what follows the run is not in its class.
-/

namespace TextCatalog

open Text

inductive CharClass where
  | among (cs : List Char)
  | span (first last : Char)
  | word
  | blank
  | digit
  deriving DecidableEq

def CharClass.has : CharClass → Char → Bool
  | .among cs, c => cs.contains c
  | .span first last, c => decide (first ≤ c) && decide (c ≤ last)
  | .word, c => isWord c
  | .blank, c => isBlank c
  | .digit, c => isDigit c

inductive Pattern where
  | literal (cs : List Char)
  | char (k : CharClass)
  | run (k : CharClass)
  | boundary
  | seq (p q : Pattern)
  | either (p q : Pattern)
  | many (p : Pattern)
  | capture (p : Pattern)
  deriving DecidableEq

/--
A place reached while matching: the character before it, the text after it, how many
characters the match has taken so far and the texts captured so far, in order.
-/
structure Cursor where
  prev : Option Char
  rest : List Char
  taken : Nat
  captures : List (List Char)
  deriving DecidableEq

namespace Cursor

def start (prev : Option Char) (text : List Char) : Cursor := ⟨prev, text, 0, []⟩

/-- Past the characters of `cs`, which stand first in the text after the cursor. -/
def literal : List Char → Cursor → List Cursor
  | [], c => [c]
  | a :: as, c =>
    match c.rest with
    | [] => []
    | b :: bs =>
      if a = b then literal as { c with prev := some b, rest := bs, taken := c.taken + 1 }
      else []

def char (k : CharClass) (c : Cursor) : List Cursor :=
  match c.rest with
  | [] => []
  | b :: bs => if k.has b then [{ c with prev := some b, rest := bs, taken := c.taken + 1 }] else []

/-- Past the longest nonempty run of characters of the class. -/
def run (k : CharClass) (c : Cursor) : List Cursor :=
  match c.rest.takeWhile k.has with
  | [] => []
  | b :: bs =>
    [{ c with
      prev := some ((b :: bs).getLast (List.cons_ne_nil b bs))
      rest := c.rest.dropWhile k.has
      taken := c.taken + (b :: bs).length }]

def wordBefore (c : Cursor) : Bool := c.prev.any isWord

def wordAfter (c : Cursor) : Bool := c.rest.head?.any isWord

def boundary (c : Cursor) : List Cursor := if c.wordBefore != c.wordAfter then [c] else []

/-- The text between an earlier cursor and a later one of the same match. -/
def between (a b : Cursor) : List Char := a.rest.take (b.taken - a.taken)

/--
Up to `n` repetitions of a step that takes text, more before fewer, then the cursors that
are `later` in preference.
-/
def repeated (step : Cursor → List Cursor) : Nat → Cursor → List Cursor → List Cursor
  | 0, c, later => c :: later
  | n + 1, c, later =>
    ((step c).filter fun d => c.taken < d.taken).foldr (repeated step n) (c :: later)

end Cursor

namespace Pattern

def ways : Pattern → Cursor → List Cursor
  | .literal cs, c => c.literal cs
  | .char k, c => c.char k
  | .run k, c => c.run k
  | .boundary, c => c.boundary
  | .seq p q, c => (p.ways c).flatMap q.ways
  | .either p q, c => p.ways c ++ q.ways c
  | .many p, c => Cursor.repeated p.ways c.rest.length c []
  | .capture p, c => (p.ways c).map fun d => { d with captures := d.captures ++ [c.between d] }

instance : Append Pattern := ⟨.seq⟩

def text (s : String) : Pattern := .literal s.toList

def empty : Pattern := .literal []

def maybe (p : Pattern) : Pattern := .either p empty

/-- The first pattern, or else the others in their order. -/
def oneOf (p : Pattern) (others : List Pattern) : Pattern := others.foldl .either p

/-- One of the given words, tried in their order. -/
def oneWord (w : String) (others : List String) : Pattern := oneOf (text w) (others.map text)

def blanks : Pattern := .run .blank

def word : Pattern := .run .word

end Pattern

end TextCatalog
