import TextCatalog.Store.Basic

/-!
# TextCatalog.Store.Memory

A store that keeps its records as they are, one for each id.

* `Memory.put` — refuses an id that is taken.
* `Memory.query` — the accepted records, oldest first and by id where they are of one age.
-/

namespace TextCatalog

structure Memory where
  records : List Record
  distinct : records.Pairwise fun a b => a.id ≠ b.id

namespace Memory

def empty : Memory := ⟨[], List.Pairwise.nil⟩

def find? (m : Memory) (id : String) : Option Record := m.records.find? fun r => r.id == id

def has (m : Memory) (id : String) : Bool := m.records.any fun r => r.id == id

theorem ne_of_has_eq_false {m : Memory} {id : String} (h : m.has id = false) :
    ∀ r ∈ m.records, r.id ≠ id := by
  intro r mem same
  have : m.has id = true := List.any_eq_true.mpr ⟨r, mem, beq_iff_eq.mpr same⟩
  rw [h] at this
  cases this

theorem cons_distinct {m : Memory} {r : Record} (h : m.has r.id = false) :
    (r :: m.records).Pairwise fun a b => a.id ≠ b.id :=
  List.pairwise_cons.mpr ⟨fun a mem same => ne_of_has_eq_false h a mem same.symm, m.distinct⟩

def put (m : Memory) (r : Record) : Except StoreError Memory :=
  if h : m.has r.id = false then .ok ⟨r :: m.records, cons_distinct h⟩
  else .error (.alreadyExists r.id)

def erase (m : Memory) (id : String) : Memory :=
  ⟨m.records.filter fun r => r.id != id, m.distinct.filter _⟩

/-- Oldest first; records of one age are in the order of their ids. -/
def inOrder (a b : Record) : Bool :=
  decide (a.createdAt < b.createdAt) ||
    (decide (a.createdAt = b.createdAt) && decide (a.id ≤ b.id))

def query (m : Memory) (f : Filter) : List Record := (m.records.filter f.accepts).mergeSort inOrder

def stats (m : Memory) : Stats :=
  ⟨m.records.length, (m.records.filter fun r => r.properties.isPalindrome).length⟩

instance : Store Memory where
  put := put
  get m id := .ok (m.find? id)
  has m id := .ok (m.has id)
  delete m id := .ok (m.has id, m.erase id)
  ids m := .ok (m.records.map (·.id))
  count m := .ok m.records.length
  clear _ := .ok empty
  query m f := .ok (m.query f)
  stats m := .ok m.stats
  reopen m := .ok m

def ofRecords (rs : List Record) : Memory := Store.fill empty rs

end Memory

end TextCatalog
