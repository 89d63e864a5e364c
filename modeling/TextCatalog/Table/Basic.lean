import TextCatalog.Table.Row

/-!
# TextCatalog.Table.Basic

The table of records, in which no two rows share an id or a value.

* `Table.insert`, `Table.erase`, `Table.update` — changes that keep the two constraints.
* `Table.find?`, `Table.select` — looking up rows.
* `Table.palindromeSum` — the sum of the flags, which must fit a column at every step.
-/

namespace TextCatalog

def Row.Apart (a b : Row) : Prop := a.id ≠ b.id ∧ a.value ≠ b.value

instance (a b : Row) : Decidable (Row.Apart a b) :=
  inferInstanceAs (Decidable (a.id ≠ b.id ∧ a.value ≠ b.value))

structure Table where
  rows : List Row
  apart : rows.Pairwise Row.Apart

namespace Table

def empty : Table := ⟨[], List.Pairwise.nil⟩

def find? (t : Table) (id : String) : Option Row := t.rows.find? fun row => row.id == id

def has (t : Table) (id : String) : Bool := t.rows.any fun row => row.id == id

def hasValue (t : Table) (value : String) : Bool := t.rows.any fun row => row.value == value

theorem apart_of_absent {t : Table} {row : Row} (noId : t.has row.id = false)
    (noValue : t.hasValue row.value = false) : ∀ a ∈ t.rows, Row.Apart row a := by
  intro a mem
  constructor
  · intro same
    have : t.has row.id = true := List.any_eq_true.mpr ⟨a, mem, beq_iff_eq.mpr same.symm⟩
    rw [noId] at this; cases this
  · intro same
    have : t.hasValue row.value = true := List.any_eq_true.mpr ⟨a, mem, beq_iff_eq.mpr same.symm⟩
    rw [noValue] at this; cases this

/-- A row whose id or value is taken is refused. -/
def insert? (t : Table) (row : Row) : Option Table :=
  if h : t.has row.id = false ∧ t.hasValue row.value = false then
    some ⟨row :: t.rows, List.pairwise_cons.mpr ⟨apart_of_absent h.1 h.2, t.apart⟩⟩
  else none

def erase (t : Table) (id : String) : Table :=
  ⟨t.rows.filter fun row => row.id != id, t.apart.filter _⟩

/-- The rows after a change to the row of an id, if no two of them share an id or a value. -/
def update? (t : Table) (id : String) (change : Row → Row) : Option Table :=
  let rows := t.rows.map fun row => if row.id = id then change row else row
  if h : rows.Pairwise Row.Apart then some ⟨rows, h⟩ else none

def select (t : Table) (f : Filter) : List Row :=
  (t.rows.filter (Row.isSelected f)).mergeSort Row.inOrder

def ids (t : Table) : List String := (t.rows.mergeSort Row.inOrder).map (·.id)

def addColumn (a b : Int) : Except EngineFault Int :=
  let sum := a + b
  if columnMin ≤ sum ∧ sum ≤ columnMax then .ok sum else .error .integerOverflow

/-- Smaller flags are added first. -/
def palindromeSum (t : Table) : Except EngineFault Int :=
  ((t.rows.map (·.isPalindrome)).mergeSort fun a b => decide (a ≤ b)).foldlM addColumn 0

end Table

end TextCatalog
