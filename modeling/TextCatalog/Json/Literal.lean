import TextCatalog.Json.Fault
import TextCatalog.Text.Digits

/-!
# TextCatalog.Json.Literal

Reading strings, numbers and words from the front of a text.

* `Mode` — whether all correct JSON is read, or only what has a value.
* `readText` — the rest of a string literal, up to its closing quote.
* `readNumeral` — a number.
* `readScalar` — a number, or a word that is a value.
-/

namespace TextCatalog
namespace Json

open Text

/-- What is read from the front of a text, and what follows it. -/
abbrev Front (α : Type) := α × List Char

/--
A loose reader takes numbers of any size and surrogates without their partners. A strict one
does not, and puts embedded documents in their places.
-/
inductive Mode where
  | loose
  | strict
  deriving DecidableEq

def fail {α : Type} (p : Problem) (rest : List Char) (taken : Nat) : Except Fault α :=
  .error ⟨[], .malformed p, .here ⟨rest, taken⟩⟩

/-- Fails at the end of the text. -/
def failAtEnd {α : Type} (p : Problem) : Except Fault α := fail p [] 0

def isSpace (c : Char) : Bool := c == ' ' || c == '\t' || c == '\n' || c == '\r'

def skipSpace (s : List Char) : List Char := s.dropWhile isSpace

/-- The text after `word`, if it begins with it. -/
def expect : (word s : List Char) → Except Fault (List Char)
  | [], s => .ok s
  | _ :: _, [] => failAtEnd .endInValue
  | a :: as, b :: bs => if a = b then expect as bs else fail .noWord (b :: bs) 1

/-! ## Strings -/

/-- A part of a string literal: a character as it stands, or the code unit of an escape. -/
inductive Piece where
  | char (c : Char)
  | unit (n : Nat)
  deriving DecidableEq

def unit? (a b c d : Char) : Option Nat :=
  match hexValue? a, hexValue? b, hexValue? c, hexValue? d with
  | some w, some x, some y, some z => some (((w * 16 + x) * 16 + y) * 16 + z)
  | _, _, _, _ => none

def shortEscape? (c : Char) : Option Char :=
  if c = '"' then some '"'
  else if c = '\\' then some '\\'
  else if c = '/' then some '/'
  else if c = 'b' then some '\x08'
  else if c = 'f' then some '\x0c'
  else if c = 'n' then some '\n'
  else if c = 'r' then some '\r'
  else if c = 't' then some '\t'
  else none

def isLeading (n : Nat) : Bool := decide (0xd800 ≤ n) && decide (n < 0xdc00)

def isTrailing (n : Nat) : Bool := decide (0xdc00 ≤ n) && decide (n < 0xe000)

/-- After the leading half of a pair another code unit must follow. -/
def expectUnit : List Char → Except Fault Unit
  | '\\' :: 'u' :: _ => .ok ()
  | ['\\'] => failAtEnd .endInString
  | '\\' :: s => fail .unfinishedPair s 1
  | [] => failAtEnd .endInString
  | s => fail .unfinishedPair s 1

/-- Whether a code unit may stand where it does: a trailing one after a leading one only. -/
def checkUnit (mode : Mode) (afterLeading : Bool) (n : Nat) (rest : List Char) :
    Except Fault Unit :=
  match mode with
  | .loose => .ok ()
  | .strict =>
    if afterLeading != isTrailing n then fail .loneSurrogate rest 0
    else if isLeading n then expectUnit rest
    else .ok ()

def readPieces (mode : Mode) : Bool → List Char → Except Fault (Front (List Piece))
  | _, [] => failAtEnd .endInString
  | _, '"' :: rest => .ok ([], rest)
  | afterLeading, '\\' :: 'u' :: a :: b :: c :: d :: rest =>
    match unit? a b c d with
    | none => fail .badEscape (a :: b :: c :: d :: rest) 4
    | some n => do
      checkUnit mode afterLeading n rest
      let (ps, s) ← readPieces mode (isLeading n) rest
      return (.unit n :: ps, s)
  | _, '\\' :: 'u' :: s => if Utf8.size s < 4 then failAtEnd .endInString else fail .badEscape s 4
  | _, '\\' :: e :: rest =>
    match shortEscape? e with
    | none => fail .badEscape (e :: rest) 1
    | some c => do
      let (ps, s) ← readPieces mode false rest
      return (.char c :: ps, s)
  | _, ['\\'] => failAtEnd .endInString
  | _, c :: rest =>
    if c.toNat < 0x20 then fail .controlCharacter (c :: rest) 1
    else do
      let (ps, s) ← readPieces mode false rest
      return (.char c :: ps, s)

def pairValue (high low : Nat) : Nat := 0x10000 + (high - 0xd800) * 0x400 + (low - 0xdc00)

/-- The text that the pieces denote: surrogates count only in pairs. -/
def joinPieces : List Piece → Option (List Char)
  | [] => some []
  | .char c :: rest => (joinPieces rest).map (c :: ·)
  | .unit high :: .unit low :: rest =>
    if isLeading high then
      if isTrailing low then (joinPieces rest).map (Char.ofNat (pairValue high low) :: ·)
      else none
    else if isTrailing high then none
    else (joinPieces (.unit low :: rest)).map (Char.ofNat high :: ·)
  | .unit n :: rest =>
    if isLeading n || isTrailing n then none else (joinPieces rest).map (Char.ofNat n :: ·)

def readText (mode : Mode) (s : List Char) : Except Fault (Front (Option String)) := do
  let (ps, s) ← readPieces mode false s
  return ((joinPieces ps).map String.ofList, s)

/-! ## Numbers -/

/-- Fails where a digit should stand. -/
def noDigit {α : Type} : List Char → Except Fault α
  | [] => failAtEnd .endInValue
  | s => fail .badNumber s 1

/-- Digits without a needless zero in front. -/
def readWhole (s : List Char) : Except Fault (Front Nat) :=
  match leadingDigits s with
  | [] => noDigit s
  | ['0'] => .ok (0, s.drop 1)
  | '0' :: _ :: _ => fail .badNumber (s.drop 1) 1
  | d :: ds => .ok (numeralValue (d :: ds), s.drop (d :: ds).length)

def readFraction : List Char → Except Fault (Front (List Char))
  | '.' :: rest =>
    match leadingDigits rest with
    | [] => noDigit rest
    | d :: ds => .ok (d :: ds, rest.drop (d :: ds).length)
  | s => .ok ([], s)

/-- A greater exponent is refused before its end. -/
def maxExponent : Nat := 2147483647

/-- The digits after the one with which a number passes a limit. -/
def afterLimit? (limit : Nat) : Nat → List Char → Option (List Char)
  | _, [] => none
  | n, d :: ds =>
    let m := n * 10 + (d.toNat - '0'.toNat)
    if limit < m then some ds else afterLimit? limit m ds

def readExponentDigits (isLimited : Bool) (sign : Int) (s : List Char) :
    Except Fault (Front (Option Int)) :=
  match leadingDigits s with
  | [] => noDigit s
  | d :: ds =>
    let rest := s.drop (d :: ds).length
    match (if isLimited then afterLimit? maxExponent 0 (d :: ds) else none) with
    | some left => fail .numberTooGreat (left ++ rest) 0
    | none => .ok (some (sign * numeralValue (d :: ds)), rest)

/-- Only an exponent that makes a number greater is limited. -/
def readExponent (isLimited : Bool) : List Char → Except Fault (Front (Option Int))
  | [] => .ok (none, [])
  | c :: rest =>
    if c = 'e' ∨ c = 'E' then
      match rest with
      | '-' :: rest => readExponentDigits false (-1) rest
      | '+' :: rest => readExponentDigits isLimited 1 rest
      | rest => readExponentDigits isLimited 1 rest
    else .ok (none, c :: rest)

def readUnsigned (mode : Mode) (negative : Bool) (s : List Char) :
    Except Fault (Front Numeral) := do
  let (whole, s) ← readWhole s
  let (fraction, s) ← readFraction s
  let isZero := whole == 0 && fraction.all (· == '0')
  let (exponent, s) ← readExponent (mode == .strict && !isZero) s
  return (⟨negative, whole, fraction, exponent⟩, s)

def readNumeral (mode : Mode) : List Char → Except Fault (Front Numeral)
  | '-' :: rest => readUnsigned mode true rest
  | s => readUnsigned mode false s

/-! ## Scalars -/

def word (w : String) (j : Json) (s : List Char) : Except Fault (Front Json) :=
  (expect w.toList s).map fun rest => (j, rest)

def readNumber (mode : Mode) (s : List Char) : Except Fault (Front Json) := do
  let (n, s) ← readNumeral mode s
  if mode = .strict ∧ n.number? = none then fail .numberTooGreat s 0 else return (.num n, s)

def readScalar (mode : Mode) : List Char → Except Fault (Front Json)
  | [] => failAtEnd .endInValue
  | c :: rest =>
    if c = 'n' then word "null" .null (c :: rest)
    else if c = 't' then word "true" (.bool true) (c :: rest)
    else if c = 'f' then word "false" (.bool false) (c :: rest)
    else if c = '-' ∨ c.isDigit then readNumber mode (c :: rest)
    else fail .noValue (c :: rest) 1

end Json
end TextCatalog
