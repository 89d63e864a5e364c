import TextCatalog.Query.Error
import TextCatalog.Query.Vocabulary

/-!
# TextCatalog.Query.Bounds

Inclusive bounds of a length, and what the families of length phrases do to them.

* `raise`, `lower` — the strictest bound counts.
* `longerThan`, `shorterThan` — the same with exclusive bounds.
* `ofRange` — the range named by two tokens, which replaces all bounds found before.
-/

namespace TextCatalog
namespace Query

open Text

structure Bounds where
  least : Option Nat
  most : Option Nat
  deriving DecidableEq

namespace Bounds

def raise (b : Bounds) (n : Nat) : Bounds :=
  { b with least := some (b.least.elim n (Nat.max · n)) }

def lower (b : Bounds) (n : Nat) : Bounds :=
  { b with most := some (b.most.elim n (Nat.min · n)) }

/-- The least count above `n`; the greatest count is its own successor. -/
def above (n : Nat) : Nat := Nat.min (n + 1) countMax

def longerThan (b : Bounds) (n : Nat) : Bounds := b.raise (above n)

def shorterThan (b : Bounds) : Nat → Except QueryError Bounds
  | 0 => .error .shorterThanZero
  | n + 1 => .ok (b.lower n)

def ofRange (low high : List Char) : Except QueryError Bounds :=
  match numberOf? low, numberOf? high with
  | some l, some h => if l < h then .ok ⟨some l, some h⟩ else .error (.emptyRange l h)
  | _, _ => .error (.unresolvedRange (String.ofList low) (String.ofList high))

end Bounds

end Query
end TextCatalog
