import TextCatalog.Text.Digits
import TextCatalog.Text.Utf8

/-!
# TextCatalog.Web.Percent

Percent-encoded texts.

* `Percent.bytes` — the bytes that a text stands for. A percent sign that two hexadecimal
  digits do not follow stands for itself.
* `Percent.encodeByte` — the three characters that stand for a byte anywhere.
* `Form.pairs` — the names and texts of a query string.
-/

namespace TextCatalog

open Text

namespace Percent

def escapedByte? (a b : Char) : Option UInt8 :=
  match hexValue? a, hexValue? b with
  | some high, some low => some (UInt8.ofNat (high * 16 + low))
  | _, _ => none

def bytes : List Char → List UInt8
  | '%' :: a :: b :: rest =>
    match escapedByte? a b with
    | some byte => byte :: bytes rest
    | none => String.utf8EncodeChar '%' ++ bytes (a :: b :: rest)
  | c :: rest => String.utf8EncodeChar c ++ bytes rest
  | [] => []

def encodeByte (b : UInt8) : List Char :=
  ['%', hexDigit (b.toNat / 16), hexDigit (b.toNat % 16)]

end Percent

namespace Form

/-- A plus sign stands for a space, and bytes that are no text for the replacement character. -/
def decode (s : List Char) : String :=
  String.ofList (Utf8.decodeLossy (Percent.bytes (s.map fun c => if c = '+' then ' ' else c)))

def pair (piece : List Char) : String × String :=
  (decode (piece.takeWhile (· != '=')), decode ((piece.dropWhile (· != '=')).drop 1))

def pairs (query : List Char) : List (String × String) :=
  ((query.splitOn '&').filter fun piece => !piece.isEmpty).map pair

end Form

end TextCatalog
