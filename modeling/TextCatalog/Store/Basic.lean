import TextCatalog.Filter.Basic

/-!
# TextCatalog.Store.Basic

What every store of records can do.

* `StoreError` — why a store refuses or fails.
* `Store` — the operations. Those that change a store give the changed one.
* `Operation`, `Outcome` — the operations and their answers as data.
* `step`, `run` — one operation, and one after the other. A failed operation leaves the store
  as it was, and the next one follows.
-/

namespace TextCatalog

inductive StoreError where
  | alreadyExists (id : String)
  | notFound (id : String)
  | invalidData (what : String)
  | backend (what : String)
  | serialization (what : String)
  deriving DecidableEq

def StoreError.message : StoreError → String
  | alreadyExists id => "string record already exists: " ++ id
  | notFound id => "string record not found: " ++ id
  | invalidData what => "invalid record data: " ++ what
  | backend what => "storage backend error: " ++ what
  | serialization what => "serialization error: " ++ what

structure Stats where
  totalRecords : Nat
  palindromes : Nat
  deriving DecidableEq

class Store (σ : Type) where
  put : σ → Record → Except StoreError σ
  get : σ → String → Except StoreError (Option Record)
  has : σ → String → Except StoreError Bool
  delete : σ → String → Except StoreError (Bool × σ)
  ids : σ → Except StoreError (List String)
  count : σ → Except StoreError Nat
  clear : σ → Except StoreError σ
  query : σ → Filter → Except StoreError (List Record)
  stats : σ → Except StoreError Stats
  /-- Closes the store and opens it again. -/
  reopen : σ → Except StoreError σ

namespace Store

inductive Operation where
  | put (r : Record)
  | get (id : String)
  | has (id : String)
  | delete (id : String)
  | ids
  | count
  | clear
  | query (f : Filter)
  | stats
  | reopen
  deriving DecidableEq

inductive Outcome where
  | done
  | found (r : Option Record)
  | flag (b : Bool)
  | ids (ids : List String)
  | count (n : Nat)
  | records (rs : List Record)
  | stats (s : Stats)
  deriving DecidableEq

variable {σ : Type} [Store σ]

/-- The store after a change, or as it was if the change failed. -/
def settle (s : σ) : Except StoreError σ → Except StoreError Outcome × σ
  | .ok s' => (.ok .done, s')
  | .error e => (.error e, s)

def step (s : σ) : Operation → Except StoreError Outcome × σ
  | .put r => settle s (put s r)
  | .get id => ((get s id).map .found, s)
  | .has id => ((has s id).map .flag, s)
  | .delete id =>
    match delete s id with
    | .ok (b, s') => (.ok (.flag b), s')
    | .error e => (.error e, s)
  | .ids => ((ids s).map .ids, s)
  | .count => ((count s).map .count, s)
  | .clear => settle s (clear s)
  | .query f => ((query s f).map .records, s)
  | .stats => ((stats s).map .stats, s)
  | .reopen => settle s (reopen s)

def run : σ → List Operation → List (Except StoreError Outcome) × σ
  | s, [] => ([], s)
  | s, op :: ops =>
    let (answer, s') := step s op
    let (answers, last) := run s' ops
    (answer :: answers, last)

/-- Puts records one after the other and passes over those that are refused. -/
def fill (s : σ) (rs : List Record) : σ := rs.foldl (fun s r => (settle s (put s r)).2) s

end Store

end TextCatalog
