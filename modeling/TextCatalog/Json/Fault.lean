import TextCatalog.Json.Number
import TextCatalog.Text.Shown
import TextCatalog.Text.Utf8

/-!
# TextCatalog.Json.Fault

Why and where a text is no document.

* `Place` — line and column.
* `Problem` — what can be wrong with a text.
* `Fault` — a problem of the text, or of a document embedded in it, or a value that is not what it
  should be, with the way to it.
* `Fault.report` — a fault in words.
-/

namespace TextCatalog
namespace Json

open Text

/-! ## Places -/

/-- Lines count from one; a column is the number of bytes before it. -/
structure Place where
  line : Nat
  column : Nat
  deriving DecidableEq

namespace Place

def start : Place := ⟨1, 0⟩

/-- The place after so many more bytes, or at the end of the text. -/
def after (p : Place) : Nat → List Char → Place
  | _, [] => p
  | n, c :: rest =>
    if n = 0 then p
    else if c = '\n' then after ⟨p.line + 1, 0⟩ (n - 1) rest
    else after ⟨p.line, p.column + Nat.min n c.utf8Size⟩ (n - c.utf8Size) rest

def text (p : Place) : String := "line " ++ toString p.line ++ " column " ++ toString p.column

end Place

/-- Where a reader stops: what it has before it, and how many bytes of that it takes. -/
structure Stop where
  rest : List Char
  taken : Nat
  deriving DecidableEq

def Stop.place (whole : List Char) (stop : Stop) : Place :=
  Place.start.after (Utf8.size whole - Utf8.size stop.rest + stop.taken) whole

/-! ## Causes -/

inductive Problem where
  | endInValue
  | endInList
  | endInObject
  | endInString
  | noValue
  | noWord
  | noColon
  | noListEnd
  | noObjectEnd
  | nameNotText
  | trailingComma
  | trailingText
  | badNumber
  | numberTooGreat
  | badEscape
  | loneSurrogate
  | unfinishedPair
  | controlCharacter
  | tooDeep
  deriving DecidableEq

def Problem.text : Problem → String
  | endInValue => "EOF while parsing a value"
  | endInList => "EOF while parsing a list"
  | endInObject => "EOF while parsing an object"
  | endInString => "EOF while parsing a string"
  | noValue => "expected value"
  | noWord => "expected ident"
  | noColon => "expected \x60:\x60"
  | noListEnd => "expected \x60,\x60 or \x60]\x60"
  | noObjectEnd => "expected \x60,\x60 or \x60\x7d\x60"
  | nameNotText => "key must be a string"
  | trailingComma => "trailing comma"
  | trailingText => "trailing characters"
  | badNumber => "invalid number"
  | numberTooGreat => "number out of range"
  | badEscape => "invalid escape"
  | loneSurrogate => "lone leading surrogate in hex escape"
  | unfinishedPair => "unexpected end of hex escape"
  | controlCharacter => "control character (\\u0000-\\u001F) found while parsing a string"
  | tooDeep => "recursion limit exceeded"

/-- What a value is found to be. -/
inductive Found where
  | null
  | bool (b : Bool)
  | number (n : Number)
  | text (s : String)
  | list
  | object
  deriving DecidableEq

/-- What a value is, unless it stands for nothing that can be read. -/
def Found.of? : Json → Option Found
  | .null => some .null
  | .bool b => some (.bool b)
  | .num n => n.number?.map .number
  | .str s => some (.text s)
  | .unpaired => none
  | .arr _ => some .list
  | .obj _ => some .object

def Found.name : Found → String
  | null => "null"
  | bool true => "boolean \x60true\x60"
  | bool false => "boolean \x60false\x60"
  | number n => n.name
  | text s => "string " ++ shown s
  | list => "sequence"
  | object => "map"

/-- What can be wanted of a value. -/
inductive Wanted where
  | text
  | counts
  | count
  deriving DecidableEq

def Wanted.name : Wanted → String
  | text => "raw value"
  | counts => "a map"
  | count => "u64"

/-- A value may be of another type than it should be, or out of range. -/
inductive Cause where
  | malformed (p : Problem)
  | mistyped (found : Found) (wanted : Wanted)
  | misfit (found : Found) (wanted : Wanted)
  deriving DecidableEq

def Cause.text : Cause → String
  | malformed p => p.text
  | mistyped found wanted => "invalid type: " ++ found.name ++ ", expected " ++ wanted.name
  | misfit found wanted => "invalid value: " ++ found.name ++ ", expected " ++ wanted.name

/-! ## Faults -/

/-- A step from a container to what it contains. -/
inductive Step where
  | item (index : Nat)
  | member (name : String)
  deriving DecidableEq

/-- Names are parted by points. -/
def wayText : List Step → String
  | [] => ""
  | .item index :: rest => "[" ++ toString index ++ "]" ++ further rest
  | .member name :: rest => name ++ further rest
where
  further : List Step → String
    | [] => ""
    | .item index :: rest => "[" ++ toString index ++ "]" ++ further rest
    | .member name :: rest => "." ++ name ++ further rest

/-- In the text that is read, or in that of an embedded document. -/
inductive Spot where
  | here (stop : Stop)
  | embedded (place : Place)
  deriving DecidableEq

structure Fault where
  way : List Step
  cause : Cause
  spot : Spot
  deriving DecidableEq

namespace Fault

def place (whole : List Char) (f : Fault) : Place :=
  match f.spot with
  | .here stop => stop.place whole
  | .embedded place => place

/-- The fault of a document, as one of the document that embeds it. -/
def embed (whole : List Char) (f : Fault) : Fault := ⟨[], f.cause, .embedded (f.place whole)⟩

/-- The fault of a part, as one of its container. -/
def under (step : Step) (f : Fault) : Fault := { f with way := step :: f.way }

/-- Whether the text that is read is no JSON or not within limits. -/
def isMalformed (f : Fault) : Bool :=
  match f.cause, f.spot with
  | .malformed _, .here _ => true
  | _, _ => false

def report (whole : List Char) (f : Fault) : String :=
  let way := if f.way.isEmpty then "" else wayText f.way ++ ": "
  way ++ f.cause.text ++ " at " ++ (f.place whole).text

end Fault

end Json
end TextCatalog
