/-!
# TextCatalog.Json.Basic

JSON documents.

* `Json.Numeral` — a number as it is written; its size is not limited.
* `Json` — a document. A string literal whose escapes leave a surrogate without its partner is
  correct JSON but denotes no text: as a value it is `unpaired`, as a member's name `none`.
* `Json.object` — a document from members whose names are texts.
-/

namespace TextCatalog

/-- No point is written when there are no digits in the fraction. -/
structure Json.Numeral where
  negative : Bool
  whole : Nat
  fraction : List Char
  exponent : Option Int
  deriving DecidableEq

inductive Json where
  | null
  | bool (b : Bool)
  | num (n : Json.Numeral)
  | str (s : String)
  | unpaired
  | arr (items : List Json)
  | obj (members : List (Option String × Json))

namespace Json

def Numeral.ofNat (n : Nat) : Numeral := ⟨false, n, [], none⟩

/-- The number that is written as digits alone. -/
def Numeral.toNat? (n : Numeral) : Option Nat :=
  match n.negative, n.fraction, n.exponent with
  | false, [], none => some n.whole
  | _, _, _ => none

def ofNat (n : Nat) : Json := .num (Numeral.ofNat n)

def object (members : List (String × Json)) : Json :=
  .obj (members.map fun m => (some m.1, m.2))

/-- A member that is written only when it has a value. -/
def optionalMember {α : Type} (name : String) (toJson : α → Json) :
    Option α → List (String × Json)
  | none => []
  | some a => [(name, toJson a)]

end Json

end TextCatalog
