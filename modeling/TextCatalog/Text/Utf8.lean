/-!
# TextCatalog.Text.Utf8

Characters as bytes of UTF-8 and back.

* `encode` — the bytes of a text.
* `decodePieces` — the characters of bytes; every longest beginning of a character that is not
  carried on counts as one piece that is no character.
* `decode?`, `decodeLossy` — such pieces are refused, or become the replacement character.
-/

namespace TextCatalog
namespace Text
namespace Utf8

def encode (s : List Char) : List UInt8 := s.flatMap String.utf8EncodeChar

/-- How many bytes a text has. -/
def size (s : List Char) : Nat := s.foldl (fun n c => n + c.utf8Size) 0

/--
Where a decoder stands: between characters, or within one of which so many bytes are still to
come, with the value read so far and the bounds of the next byte.
-/
inductive State where
  | between
  | within (missing value first last : Nat)
  deriving DecidableEq

/-- What a byte means between two characters. -/
inductive Opening where
  | char (c : Char)
  | more (s : State)
  | none
  deriving DecidableEq

/-- The bounds of the second byte leave out long forms, surrogates and what lies past the end. -/
def opening (b : Nat) : Opening :=
  if b < 0x80 then .char (Char.ofNat b)
  else if b < 0xc2 then .none
  else if b < 0xe0 then .more (.within 1 (b - 0xc0) 0x80 0xbf)
  else if b = 0xe0 then .more (.within 2 0 0xa0 0xbf)
  else if b = 0xed then .more (.within 2 0xd 0x80 0x9f)
  else if b < 0xf0 then .more (.within 2 (b - 0xe0) 0x80 0xbf)
  else if b = 0xf0 then .more (.within 3 0 0x90 0xbf)
  else if b < 0xf4 then .more (.within 3 (b - 0xf0) 0x80 0xbf)
  else if b = 0xf4 then .more (.within 3 4 0x80 0x8f)
  else .none

def decodeFrom : State → List UInt8 → List (Option Char)
  | .between, [] => []
  | .within _ _ _ _, [] => [none]
  | .between, b :: bs =>
    match opening b.toNat with
    | .char c => some c :: decodeFrom .between bs
    | .more s => decodeFrom s bs
    | .none => none :: decodeFrom .between bs
  | .within missing value first last, b :: bs =>
    if first ≤ b.toNat ∧ b.toNat ≤ last then
      let value := value * 64 + (b.toNat - 0x80)
      if missing ≤ 1 then some (Char.ofNat value) :: decodeFrom .between bs
      else decodeFrom (.within (missing - 1) value 0x80 0xbf) bs
    else
      match opening b.toNat with
      | .char c => none :: some c :: decodeFrom .between bs
      | .more s => none :: decodeFrom s bs
      | .none => none :: none :: decodeFrom .between bs

def decodePieces (bs : List UInt8) : List (Option Char) := decodeFrom .between bs

def decode? (bs : List UInt8) : Option (List Char) := (decodePieces bs).mapM id

def replacement : Char := '\ufffd'

def decodeLossy (bs : List UInt8) : List Char := (decodePieces bs).map (·.getD replacement)

end Utf8
end Text
end TextCatalog
