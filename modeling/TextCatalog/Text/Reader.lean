import TextCatalog.Text.Blank
import TextCatalog.Text.Digits

/-!
# TextCatalog.Text.Reader

Readers take a part from the front of a text, or fail. These read marks and numbers.
-/

namespace TextCatalog
namespace Text

/-- Gives what it has read and the text after it. -/
abbrev Reader := StateT (List Char) Option

def oneCharOf (accepted : List Char) : Reader Char
  | [] => none
  | c :: rest => if accepted.contains c then some (c, rest) else none

def mark (c : Char) : Reader Unit := do
  let _ ← oneCharOf [c]

/-- A number of exactly so many digits. -/
def exactly (width : Nat) : Reader Nat := fun s =>
  let digits := (leadingDigits s).take width
  if digits.length = width then some (numeralValue digits, s.drop width) else none

/-- A number of one digit or more, but no more than `width`; further digits are left. -/
def upTo (width : Nat) : Reader Nat := fun s =>
  match (leadingDigits s).take width with
  | [] => none
  | d :: ds => some (numeralValue (d :: ds), s.drop (d :: ds).length)

def anyNumber : Reader Nat := fun s => upTo s.length s

def skipBlanks : Reader Unit := fun s => some ((), trimStart s)

/-- What a reader gives on a whole text. -/
def Reader.whole? {α : Type} (r : Reader α) (s : List Char) : Option α :=
  match r s with
  | some (a, []) => some a
  | _ => none

end Text
end TextCatalog
