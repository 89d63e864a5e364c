import TextCatalog.Instant.Basic
import TextCatalog.Instant.Calendar
import TextCatalog.Text.Reader
import TextCatalog.Text.Utf8

/-!
# TextCatalog.Instant.Reader

Reading instants.

* `ofStrictText` — the internet form: every number has its full width and nothing may stand
  between the parts. What is no instant is refused for its first flaw.
* `ofLooseText?` — years of any size with a sign, short numbers and blanks between the parts.

Both take a zone: `Z` or a distance in hours and minutes. Second 60 is the leap second.
-/

namespace TextCatalog
namespace Instant

open Text

/-! ## Written instants -/

/-- The numbers of a written instant, before they are known to make sense. -/
structure Written where
  date : Date
  hour : Nat
  minute : Nat
  second : Nat
  nanos : Nat
  offset : Int
  deriving DecidableEq

namespace Written

/-- The years of which every day is an instant's. -/
def yearInRange (y : Int) : Bool := decide (-262143 ≤ y) && decide (y ≤ 262142)

def isWithinDay (offset : Int) : Bool := decide (offset.natAbs < 86400)

def isValid (w : Written) : Bool :=
  w.date.isValid && yearInRange w.date.year && decide (w.hour < 24) && decide (w.minute < 60) &&
    decide (w.second ≤ 60) && isWithinDay w.offset

/-- The second that is counted, and the nanoseconds past it. -/
def secondAndNanos (w : Written) : Nat × Nat :=
  if w.second = 60 then (59, w.nanos + nanosPerSecond) else (w.second, w.nanos)

def toInstant? (w : Written) : Option Instant :=
  if w.isValid then
    let (second, nanos) := w.secondAndNanos
    ofUnix? (w.date.toDays * 86400 + w.hour * 3600 + w.minute * 60 + second - w.offset) nanos
  else none

end Written

/-! ## The internet form -/

/-- Why a text is no instant in the internet form. -/
inductive Flaw where
  | tooShort
  | badCharacter
  | outOfRange
  | tooLong
  deriving DecidableEq

def Flaw.text : Flaw → String
  | tooShort => "premature end of input"
  | badCharacter => "input contains invalid characters"
  | outOfRange => "input is out of range"
  | tooLong => "trailing input"

/-- Readers that say why they fail. -/
abbrev Scanner := StateT (List Char) (Except Flaw)

def Scanner.toReader {α : Type} (r : Scanner α) : Reader α := fun s => (r s).toOption

/-- Reads what takes so many bytes at least. -/
def scan {α : Type} (bytes : Nat) (r : Reader α) : Scanner α := fun s =>
  if Utf8.size s < bytes then .error .tooShort
  else
    match r s with
    | some front => .ok front
    | none => .error .badCharacter

def check (holds : Bool) : Scanner Unit := fun s =>
  if holds then .ok ((), s) else .error .outOfRange

/-- A number of exactly so many digits, in its range. -/
def field (width first last : Nat) : Scanner Nat := do
  let n ← scan width (exactly width)
  check (decide (first ≤ n) && decide (n ≤ last))
  return n

/-- The digits count as nanoseconds; those past the ninth are dropped. -/
def nanoseconds : Reader Nat := fun s =>
  match leadingDigits s with
  | [] => none
  | d :: ds =>
    let kept := (d :: ds).take 9
    some (numeralValue kept * Nat.pow 10 (9 - kept.length), s.drop (d :: ds).length)

def fractionOfSecond : Scanner Nat
  | '.' :: rest => scan 1 nanoseconds rest
  | s => .ok (0, s)

def sign : Reader Int := do
  return if (← oneCharOf ['+', '-', '−']) = '+' then 1 else -1

def distance (separator : Scanner Unit) : Scanner Int := do
  let sign ← scan 1 sign
  let hours ← field 2 0 99
  separator
  let minutes ← field 2 0 59
  return sign * ((hours * 3600 + minutes * 60 : Nat) : Int)

/-- The zone, as its distance in seconds. -/
def zone (separator : Scanner Unit) : Scanner Int := fun s =>
  match s with
  | [] => .error .tooShort
  | c :: rest => if c = 'Z' ∨ c = 'z' then .ok (0, rest) else distance separator (c :: rest)

def separatorOfDate : List Char := ['T', 't', ' ']

def strict : Scanner Written := do
  let year ← field 4 0 9999
  scan 1 (mark '-')
  let month ← field 2 1 12
  scan 1 (mark '-')
  let day ← field 2 1 31
  let _ ← scan 1 (oneCharOf separatorOfDate)
  let hour ← field 2 0 23
  scan 1 (mark ':')
  let minute ← field 2 0 59
  scan 1 (mark ':')
  let second ← field 2 0 60
  let nanos ← fractionOfSecond
  let offset ← zone (scan 1 (mark ':'))
  check (Written.isWithinDay offset)
  return ⟨⟨year, month, day⟩, hour, minute, second, nanos, offset⟩

def ofStrictText (s : String) : Except Flaw Instant :=
  match strict s.toList with
  | .error flaw => .error flaw
  | .ok (w, []) =>
    match w.toInstant? with
    | some t => .ok t
    | none => .error .outOfRange
  | .ok (_, _ :: _) => .error .tooLong

def ofStrictText? (s : String) : Option Instant := (ofStrictText s).toOption

/-! ## The loose form -/

/-- Any colons and blanks may stand between hours and minutes. -/
def skipColons : Scanner Unit := fun s => .ok ((), s.dropWhile fun c => c == ':' || isBlank c)

/-- A year without a sign has at most four digits. -/
def signedYear : Reader Int
  | '-' :: rest => (anyNumber rest).map fun r => (-(r.1 : Int), r.2)
  | '+' :: rest => (anyNumber rest).map fun r => ((r.1 : Int), r.2)
  | s => (upTo 4 s).map fun r => ((r.1 : Int), r.2)

def looseZone : Reader Int := fun s =>
  match s with
  | u :: t :: c :: rest =>
    if [u, t, c].map Char.toUpper = ['U', 'T', 'C'] then some (0, rest)
    else (zone skipColons).toReader s
  | s => (zone skipColons).toReader s

def loosePair : Reader Nat := do
  skipBlanks
  upTo 2

def looseMark (c : Char) : Reader Unit := do
  skipBlanks
  mark c

def loose : Reader Written := do
  skipBlanks
  let year ← signedYear
  looseMark '-'
  let month ← loosePair
  looseMark '-'
  let day ← loosePair
  let _ ← oneCharOf separatorOfDate
  let hour ← loosePair
  looseMark ':'
  let minute ← loosePair
  looseMark ':'
  let second ← loosePair
  let nanos ← fractionOfSecond.toReader
  skipBlanks
  let offset ← looseZone
  return ⟨⟨year, month, day⟩, hour, minute, second, nanos, offset⟩

def ofLooseText? (s : String) : Option Instant :=
  match loose s.toList with
  | some (w, rest) => if trimStart rest = [] then w.toInstant? else none
  | none => none

end Instant
end TextCatalog
