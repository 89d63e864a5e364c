import TextCatalog.Store.Basic
import TextCatalog.Table.Basic

/-!
# TextCatalog.Table.Database

A database that holds the table of records and the list of migrations applied to it.

* `Database.migrate` — applies the migrations that are not recorded yet, in their order.
* `put`, `get`, `query` and the others — the operations on records.
* `write`, `dropStrings` — changes from outside, which the operations must live with.
-/

namespace TextCatalog

/-- Versions of applied migrations, each once. -/
structure Versions where
  list : List String
  nodup : list.Nodup

/-- A table that is not there is `none`. -/
structure Database where
  versions : Option Versions
  strings : Option Table

inductive Migration where
  | createVersions
  | createStrings
  deriving DecidableEq

namespace Migration

def all : List Migration := [createVersions, createStrings]

def version : Migration → String
  | createVersions => "000"
  | createStrings => "001"

/-- Creates a table where there is none. -/
def apply (d : Database) : Migration → Database
  | createVersions => { d with versions := some (d.versions.getD ⟨[], List.Pairwise.nil⟩) }
  | createStrings => { d with strings := some (d.strings.getD Table.empty) }

end Migration

namespace Database

def isApplied (d : Database) (m : Migration) : Bool :=
  match d.versions with
  | none => false
  | some vs => vs.list.contains m.version

/-- Records a version, which must not be recorded yet. -/
def record (d : Database) (version : String) : Except EngineFault Database :=
  match d.versions with
  | none => .error .noVersions
  | some vs =>
    if h : version ∈ vs.list then .error .uniqueVersion
    else .ok { d with versions := some ⟨version :: vs.list, List.nodup_cons.mpr ⟨h, vs.nodup⟩⟩ }

def migrateOne (d : Database) (m : Migration) : Except TableError Database :=
  if d.isApplied m then .ok d else ((m.apply d).record m.version).mapError .ofEngine

def migrate (d : Database) : Except TableError Database := Migration.all.foldlM migrateOne d

def table (d : Database) : Except EngineFault Table :=
  match d.strings with
  | none => .error .noStrings
  | some t => .ok t

def withTable (d : Database) (t : Table) : Database := { d with strings := some t }

/-! ## Operations that look at records -/

def tableForRecords (d : Database) : Except TableError Table := d.table.mapError .ofEngine

def has (d : Database) (id : String) : Except TableError Bool := do
  let t ← d.tableForRecords
  return t.has id

/-- A taken id is noticed before a taken value. -/
def put (d : Database) (r : Record) : Except TableError Database := do
  let t ← d.tableForRecords
  if t.has r.id then throw (.alreadyExists r.id)
  match t.insert? (Row.ofRecord r) with
  | some t => return d.withTable t
  | none => throw (.ofEngine .uniqueValue)

def get (d : Database) (id : String) : Except TableError (Option Record) := do
  let t ← d.tableForRecords
  match t.find? id with
  | none => return none
  | some row => some <$> row.toRecord

def query (d : Database) (f : Filter) : Except TableError (List Record) := do
  let t ← d.tableForRecords
  (t.select f).mapM Row.toRecord

/-! ## Operations that look at no record -/

def delete (d : Database) (id : String) : Except EngineFault (Bool × Database) := do
  let t ← d.table
  return (t.has id, d.withTable (t.erase id))

def ids (d : Database) : Except EngineFault (List String) := do
  let t ← d.table
  return t.ids

def count (d : Database) : Except EngineFault Nat := do
  let t ← d.table
  return t.rows.length

def clear (d : Database) : Except EngineFault Database := do
  let _ ← d.table
  return d.withTable Table.empty

/-- A sum below zero counts from the greatest number of 64 bits down. -/
def stats (d : Database) : Except EngineFault Stats := do
  let t ← d.table
  let sum ← t.palindromeSum
  return ⟨t.rows.length, (sum % (Text.counts : Int)).toNat⟩

/-! ## Changes from outside -/

inductive IntegerColumn where
  | length
  | isPalindrome
  | uniqueCharacters
  | wordCount
  deriving DecidableEq

inductive TextColumn where
  | value
  | sha256Hash
  | frequencies
  | createdAt
  deriving DecidableEq

/-- A new content for one column. -/
inductive Write where
  | integer (column : IntegerColumn) (n : Int)
  | text (column : TextColumn) (s : String)
  deriving DecidableEq

def Write.apply (row : Row) : Write → Row
  | .integer .length n => { row with length := n }
  | .integer .isPalindrome n => { row with isPalindrome := n }
  | .integer .uniqueCharacters n => { row with uniqueCharacters := n }
  | .integer .wordCount n => { row with wordCount := n }
  | .text .value s => { row with value := s }
  | .text .sha256Hash s => { row with sha256Hash := s }
  | .text .frequencies s => { row with frequencies := s }
  | .text .createdAt s => { row with createdAt := Cell.ofText s }

/-- Writes to the row of an id; also gives how many rows that is. -/
def write (d : Database) (id : String) (w : Write) : Except TableError (Nat × Database) := do
  let t ← d.tableForRecords
  match t.update? id w.apply with
  | some t' => return (if t.has id then 1 else 0, d.withTable t')
  | none => throw (.ofEngine .uniqueValue)

def dropStrings (d : Database) : Except TableError Database := do
  let _ ← d.tableForRecords
  return { d with strings := none }

instance : Store Database where
  put d r := (d.put r).mapError TableError.toStoreError
  get d id := (d.get id).mapError TableError.toStoreError
  has d id := (d.has id).mapError TableError.toStoreError
  delete d id := (d.delete id).mapError EngineFault.toStoreError
  ids d := d.ids.mapError EngineFault.toStoreError
  count d := d.count.mapError EngineFault.toStoreError
  clear d := d.clear.mapError EngineFault.toStoreError
  query d f := (d.query f).mapError TableError.toStoreError
  stats d := d.stats.mapError EngineFault.toStoreError
  reopen d := d.migrate.mapError TableError.toStoreError

/-- A database without records, as the migrations leave it. -/
def fresh : Database :=
  ⟨some ⟨["001", "000"], by decide⟩, some Table.empty⟩

end Database

end TextCatalog
