import TextCatalog.Instant.Reader
import TextCatalog.Store.Basic
import TextCatalog.Table.Cell

/-!
# TextCatalog.Table.Error

Why a table of records refuses or fails, and how the store reports it.

* `EngineFault` — what the table itself rejects.
* `ColumnFault` — a column whose content is no part of a record.
* `TableError` — all failures of the operations on records.
-/

namespace TextCatalog

inductive EngineFault where
  | uniqueValue
  | uniqueVersion
  | noStrings
  | noVersions
  | integerOverflow
  | numericTime (kind : NumberKind)
  deriving DecidableEq

def NumberKind.name : NumberKind → String
  | integer => "Integer"
  | real => "Real"

def EngineFault.text : EngineFault → String
  | uniqueValue => "UNIQUE constraint failed: strings.value"
  | uniqueVersion => "UNIQUE constraint failed: schema_migrations.version"
  | noStrings => "no such table: strings"
  | noVersions => "no such table: schema_migrations"
  | integerOverflow => "integer overflow"
  | numericTime kind =>
    "Invalid column type " ++ kind.name ++ " at index: 8, name: created_at"

inductive ColumnFault where
  | negativeCount (column : String) (n : Int)
  | malformedTime (text : String) (flaw : Instant.Flaw)
  deriving DecidableEq

def ColumnFault.text : ColumnFault → String
  | negativeCount column n => "negative " ++ column ++ ": " ++ toString n
  | malformedTime text flaw => "invalid datetime '" ++ text ++ "': " ++ flaw.text

inductive TableError where
  | engine (what : String)
  | json (what : String)
  | alreadyExists (id : String)
  | invalidData (what : String)
  | migration (what : String)
  deriving DecidableEq

namespace TableError

def ofEngine (f : EngineFault) : TableError := .engine f.text

def ofColumn (f : ColumnFault) : TableError := .invalidData f.text

def toStoreError : TableError → StoreError
  | engine what => .backend ("SQLite: " ++ what)
  | json what => .serialization what
  | alreadyExists id => .alreadyExists id
  | invalidData what => .invalidData what
  | migration what => .backend ("Migration: " ++ what)

end TableError

/-- Operations that look at no record report what the table rejects without more words. -/
def EngineFault.toStoreError (f : EngineFault) : StoreError := .backend f.text

end TextCatalog
