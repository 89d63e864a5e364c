import TextCatalog.Json.Basic
import TextCatalog.Text.Digits

/-!
# TextCatalog.Json.Printer

The compact text of a document: no blanks, members in their order, and no character escaped
that need not be.
-/

namespace TextCatalog
namespace Json

open Text

/-- Control characters have no more than two hexadecimal digits. -/
def controlEscape (n : Nat) : List Char :=
  ['\\', 'u', '0', '0', hexDigit (n / 16), hexDigit (n % 16)]

def escaped (c : Char) : List Char :=
  if c = '"' then ['\\', '"']
  else if c = '\\' then ['\\', '\\']
  else if c = '\x08' then ['\\', 'b']
  else if c = '\x0c' then ['\\', 'f']
  else if c = '\n' then ['\\', 'n']
  else if c = '\r' then ['\\', 'r']
  else if c = '\t' then ['\\', 't']
  else if c.toNat < 0x20 then controlEscape c.toNat
  else [c]

def quoted (s : List Char) : List Char := '"' :: s.flatMap escaped ++ ['"']

/-- The literal of a string that denotes no text. -/
def unpairedLiteral : List Char := "\"\\ud800\"".toList

def integer (z : Int) : List Char :=
  match z with
  | .ofNat n => numeral n
  | .negSucc n => '-' :: numeral (n + 1)

namespace Numeral

def sign (n : Numeral) : List Char := if n.negative then ['-'] else []

def fractionPart (n : Numeral) : List Char :=
  match n.fraction with
  | [] => []
  | d :: ds => '.' :: d :: ds

def exponentPart (n : Numeral) : List Char :=
  match n.exponent with
  | none => []
  | some e => 'e' :: integer e

def print (n : Numeral) : List Char :=
  n.sign ++ numeral n.whole ++ n.fractionPart ++ n.exponentPart

end Numeral

def printName : Option String → List Char
  | some name => quoted name.toList
  | none => unpairedLiteral

mutual

def print : Json → List Char
  | .null => "null".toList
  | .bool true => "true".toList
  | .bool false => "false".toList
  | .num n => n.print
  | .str s => quoted s.toList
  | .unpaired => unpairedLiteral
  | .arr items => '[' :: printItems items ++ [']']
  | .obj members => '\x7b' :: printMembers members ++ ['\x7d']

def printItems : List Json → List Char
  | [] => []
  | [j] => print j
  | j :: k :: rest => print j ++ ',' :: printItems (k :: rest)

def printMembers : List (Option String × Json) → List Char
  | [] => []
  | [(name, j)] => printName name ++ ':' :: print j
  | (name, j) :: m :: rest => printName name ++ ':' :: print j ++ ',' :: printMembers (m :: rest)

end

def compact (j : Json) : String := String.ofList j.print

end Json
end TextCatalog
