import TextCatalog.Json.Reader

/-!
# TextCatalog.Json.Counts

Reading an object whose members are counts, by type: what is no count is refused where it stands,
before anything after it is read.

* `readCount` — a count.
* `readCounts` — a text that is one object of counts, with its members in the order of the text.
-/

namespace TextCatalog
namespace Json

open Text

def misfit {α : Type} (found : Found) (wanted : Wanted) (rest : List Char) : Except Fault α :=
  .error ⟨[], .misfit found wanted, .here ⟨rest, 0⟩⟩

/-- A numeral that stands for a number. -/
def readFinite (s : List Char) : Except Fault (Front Number) := do
  let (n, s) ← readNumeral .strict s
  match n.number? with
  | some number => return (number, s)
  | none => fail .numberTooGreat s 0

/-- A number that is no count is read to its end. -/
def readCount (s : List Char) : Except Fault (Front Nat) :=
  match skipSpace s with
  | [] => failAtEnd .endInValue
  | c :: rest =>
    if c = '-' ∨ c.isDigit then do
      let (number, s) ← readFinite (c :: rest)
      match number with
      | .integer (.ofNat n) => return (n, s)
      | .integer (.negSucc n) => misfit (.number (.integer (.negSucc n))) .count s
      | .double negative units => mistyped (.number (.double negative units)) .count s
    else refuse .count (c :: rest)

/-- The members from one on, the name of which has been read. A member takes a step. -/
def readCountMembers :
    (fuel : Nat) → String → List Char → Except Fault (Front (List (String × Nat)))
  | 0, _, _ => failAtEnd .endInObject
  | fuel + 1, name, s => do
    let s ← expectColon s
    let (n, s) ← readCount s
    let (more, s) ← nextMember s
    if more then
      let (next, s) ← readPlainText s
      let (members, s) ← readCountMembers fuel next s
      return ((name, n) :: members, s)
    else return ([(name, n)], s)

/-- An object of counts, the opening brace of which has been read. -/
def readCountObject (s : List Char) : Except Fault (Front (List (String × Nat))) := do
  let (more, s) ← firstMember s
  if more then
    let (name, s) ← readPlainText s
    readCountMembers (s.length + 1) name s
  else return ([], s)

def readCounts (s : List Char) : Except Fault (List (String × Nat)) :=
  match skipSpace s with
  | '\x7b' :: rest => (readCountObject rest).bind toEnd
  | s => refuse .counts s

end Json
end TextCatalog
