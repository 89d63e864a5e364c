import TextCatalog.Json.Basic
import TextCatalog.Text.Digits

/-!
# TextCatalog.Json.Fields

Reading typed values out of documents.

* `toCount?`, `toText?`, `toBool?`, `toChar?` — the plain values.
* `fields?` — the values of named fields, from an object that names them or from an array that
  lists them in order. Members of other names are passed over; a field given twice is refused.
* `required`, `optional` — a field that must be there, and one that may be missing or null.
-/

namespace TextCatalog
namespace Json

open Text

def toCount? : Json → Option Nat
  | .num n => n.toNat?.filter fun k => decide (k < counts)
  | _ => none

def toText? : Json → Option String
  | .str s => some s
  | _ => none

def toBool? : Json → Option Bool
  | .bool b => some b
  | _ => none

/-- A text of one character. -/
def toChar? : Json → Option Char
  | .str s =>
    match s.toList with
    | [c] => some c
    | _ => none
  | _ => none

/-- The members of a given name. -/
def named (name : String) (members : List (Option String × Json)) : List Json :=
  (members.filter fun m => m.1 == some name).map (·.2)

/-- The only member of a name: none where there is no such member, an error where there are two. -/
def only? (name : String) (members : List (Option String × Json)) : Option (Option Json) :=
  match named name members with
  | [] => some none
  | [j] => some (some j)
  | _ => none

def padTo (names : List String) (items : List Json) : List (Option Json) :=
  items.map some ++ List.replicate (names.length - items.length) none

def fields? (names : List String) : Json → Option (List (Option Json))
  | .obj members =>
    if members.all fun m => m.1.isSome then names.mapM fun name => only? name members
    else none
  | .arr items => if items.length ≤ names.length then some (padTo names items) else none
  | _ => none

def required {α : Type} (read : Json → Option α) : Option Json → Option α
  | some j => read j
  | none => none

def optional {α : Type} (read : Json → Option α) : Option Json → Option (Option α)
  | none => some none
  | some .null => some none
  | some j => (read j).map some

end Json
end TextCatalog
