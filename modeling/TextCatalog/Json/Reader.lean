import TextCatalog.Json.Literal

/-!
# TextCatalog.Json.Reader

Reading a document from a text.

* `readValue` — a whole value; what follows it is handed back.
* `parse?` — a text that holds one value and blanks around it, read loosely.
* `leading` — the value that a text begins with, read strictly.

A strict reader puts embedded documents in their places: an object whose first member is named
`embeddedName` stands for the document in the text of that member, its only one. An embedded
document is a whole text, and containers are counted anew in it.
-/

namespace TextCatalog
namespace Json

open Text

/-- How deep containers may be nested in what is read strictly. -/
def maxDepth : Nat := 127

def embeddedName : String := "$serde_json::private::RawValue"

def embeds (mode : Mode) (name : Option String) : Bool :=
  mode == .strict && name == some embeddedName

def ofText : Option String → Json
  | some s => .str s
  | none => .unpaired

def expectColon (s : List Char) : Except Fault (List Char) :=
  match skipSpace s with
  | [] => failAtEnd .endInObject
  | ':' :: rest => .ok rest
  | s => fail .noColon s 1

/-- What has been read, if nothing follows it. -/
def toEnd {α : Type} (front : Front α) : Except Fault α :=
  match skipSpace front.2 with
  | [] => .ok front.1
  | s => fail .trailingText s 1

def expectObjectEnd (s : List Char) : Except Fault (List Char) :=
  match skipSpace s with
  | [] => failAtEnd .endInObject
  | '\x7d' :: rest => .ok rest
  | ',' :: rest => fail .trailingComma (',' :: rest) 1
  | s => fail .trailingText s 1

def under {α : Type} (step : Step) (r : Except Fault α) : Except Fault α :=
  r.mapError (Fault.under step)

/-! ## Values of another type -/

def mistyped {α : Type} (found : Found) (wanted : Wanted) (rest : List Char) : Except Fault α :=
  .error ⟨[], .mistyped found wanted, .here ⟨rest, 0⟩⟩

/-- A scalar that is not wanted is read to its end. -/
def refuseScalar {α : Type} (wanted : Wanted) (s : List Char) : Except Fault α := do
  let (j, s) ← readScalar .strict s
  match Found.of? j with
  | some found => mistyped found wanted s
  | none => fail .noValue s 0

/-- Strictly read, every string literal denotes a text. -/
def readPlainText (s : List Char) : Except Fault (Front String) := do
  let (text, s) ← readText .strict s
  return (text.getD "", s)

/-- Fails for a value of another type than it should be. A container is not read. -/
def refuse {α : Type} (wanted : Wanted) (s : List Char) : Except Fault α :=
  match skipSpace s with
  | [] => failAtEnd .endInValue
  | '"' :: rest => do
    let (text, s) ← readPlainText rest
    mistyped (.text text) wanted s
  | '[' :: rest => mistyped .list wanted ('[' :: rest)
  | '\x7b' :: rest => mistyped .object wanted ('\x7b' :: rest)
  | s => refuseScalar wanted s

def readEmbeddedText (s : List Char) : Except Fault (Front String) :=
  match skipSpace s with
  | '"' :: rest => readPlainText rest
  | s => refuse .text s

/-! ## Members -/

/--
Whether an object that has just begun has a first member, and what follows the quote that its name
begins with, or the end of the object.
-/
def firstMember (s : List Char) : Except Fault (Front Bool) :=
  match skipSpace s with
  | [] => failAtEnd .endInObject
  | '\x7d' :: rest => .ok (false, rest)
  | '"' :: rest => .ok (true, rest)
  | s => fail .nameNotText s 1

/-- The same after a member. -/
def nextMember (s : List Char) : Except Fault (Front Bool) :=
  match skipSpace s with
  | [] => failAtEnd .endInObject
  | '\x7d' :: rest => .ok (false, rest)
  | ',' :: rest =>
    match skipSpace rest with
    | [] => failAtEnd .endInValue
    | '\x7d' :: rest => fail .trailingComma ('\x7d' :: rest) 1
    | '"' :: rest => .ok (true, rest)
    | s => fail .nameNotText s 1
  | s => fail .noObjectEnd s 1

/-! ## Values -/

mutual

/--
A container takes one character and two steps, one for itself and one for what it contains, so
twice the length of the text is fuel enough.
-/
def readValue (mode : Mode) : (fuel depth : Nat) → List Char → Except Fault (Front Json)
  | 0, _, _ => failAtEnd .endInValue
  | fuel + 1, depth, s =>
    match skipSpace s with
    | [] => failAtEnd .endInValue
    | '"' :: rest => do
      let (text, s) ← readText mode rest
      return (ofText text, s)
    | '[' :: rest =>
      match depth with
      | 0 => fail .tooDeep ('[' :: rest) 1
      | depth + 1 =>
        match skipSpace rest with
        | [] => failAtEnd .endInList
        | ']' :: rest => .ok (.arr [], rest)
        | s => do
          let (items, s) ← readItems mode fuel depth 0 s
          return (.arr items, s)
    | '\x7b' :: rest =>
      match depth with
      | 0 => fail .tooDeep ('\x7b' :: rest) 1
      | depth + 1 => do
        let (more, s) ← firstMember rest
        if more then
          let (name, s) ← readText mode s
          if embeds mode name then readEmbedded mode fuel s
          else
            let (members, s) ← readMembers mode fuel depth name s
            return (.obj members, s)
        else return (.obj [], s)
    | s => readScalar mode s

/-- The items from one on; `index` is the number of items before it. -/
def readItems (mode : Mode) :
    (fuel depth index : Nat) → List Char → Except Fault (Front (List Json))
  | 0, _, _, _ => failAtEnd .endInList
  | fuel + 1, depth, index, s => do
    let (j, s) ← under (.item index) (readValue mode fuel depth s)
    match skipSpace s with
    | [] => failAtEnd .endInList
    | ']' :: rest => return ([j], rest)
    | ',' :: rest =>
      match skipSpace rest with
      | [] => failAtEnd .endInValue
      | ']' :: rest => fail .trailingComma (']' :: rest) 1
      | s =>
        let (items, s) ← readItems mode fuel depth (index + 1) s
        return (j :: items, s)
    | s => fail .noListEnd s 1

/-- The members from one on, the name of which has been read. -/
def readMembers (mode : Mode) :
    (fuel depth : Nat) → Option String → List Char →
      Except Fault (Front (List (Option String × Json)))
  | 0, _, _, _ => failAtEnd .endInObject
  | fuel + 1, depth, name, s => do
    let s ← expectColon s
    let (j, s) ← under (.member (name.getD "")) (readValue mode fuel depth s)
    let (more, s) ← nextMember s
    if more then
      let (next, s) ← readText mode s
      let (members, s) ← readMembers mode fuel depth next s
      return ((name, j) :: members, s)
    else return ([(name, j)], s)

/-- The document that is embedded in an object, the name of whose first member has been read. -/
def readEmbedded (mode : Mode) : (fuel : Nat) → List Char → Except Fault (Front Json)
  | 0, _ => failAtEnd .endInObject
  | fuel + 1, s => do
    let s ← expectColon s
    let (text, s) ← under (.member embeddedName) (readEmbeddedText s)
    let whole := text.toList
    let j ← ((readValue mode fuel maxDepth whole).bind toEnd).mapError (Fault.embed whole)
    let s ← expectObjectEnd s
    return (j, s)

end

def fuelFor (s : List Char) : Nat := 2 * s.length + 2

/-- No text nests containers deeper than it is long. -/
def readLoosely (s : List Char) : Except Fault Json :=
  (readValue .loose (fuelFor s) s.length s).bind toEnd

def parse? (s : String) : Option Json := (readLoosely s.toList).toOption

def leading (s : List Char) : Except Fault Json :=
  (readValue .strict (fuelFor s) maxDepth s).map (·.1)

end Json
end TextCatalog
