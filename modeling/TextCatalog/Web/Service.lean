import TextCatalog.Filter.Document
import TextCatalog.Query.Basic
import TextCatalog.Record.Document
import TextCatalog.Store.Basic
import TextCatalog.Web.Posting

/-!
# TextCatalog.Web.Service

Answering requests over a store.

* `create`, `fetch`, `remove`, `list`, `interpret` — what a request on each route does.
* `respond` — one request: the answer and the store after it.
* `serve` — requests one after the other.
-/

namespace TextCatalog
namespace Service

open Text

variable {σ : Type} [Store σ]

def stored {α : Type} (a : Except StoreError α) : Except ApiError α := a.mapError .store

def create (s : σ) (now : Instant) (r : Request) : Except ApiError (Response × σ) := do
  let value ← Posting.value r
  let record := Record.ofText value now
  let s ← stored (Store.put s record)
  return (Response.ofJson 201 record.toJson, s)

def missing (value : String) : ApiError :=
  .notFound ("string '" ++ value ++ "' does not exist in the system")

def fetch (s : σ) (value : String) : Except ApiError (Response × σ) := do
  match ← stored (Store.get s (Record.idOf value)) with
  | some record => return (Response.ofJson 200 record.toJson, s)
  | none => throw (missing value)

def remove (s : σ) (value : String) : Except ApiError (Response × σ) := do
  let (removed, s) ← stored (Store.delete s (Record.idOf value))
  if removed then return (Response.withoutBody 204, s) else throw (missing value)

/-- Of parameters of one name the last counts. -/
def paramsOf (r : Request) : Params :=
  (Form.pairs r.query).foldl (fun ps p => ps.set p.1 p.2) []

def listing (rs : List Record) (how : String × Json) : Response :=
  Response.ofJson 200 (Json.object [
    ("data", .arr (rs.map Record.toJson)),
    ("count", Json.ofNat rs.length),
    how])

def list (s : σ) (ps : Params) : Except ApiError (Response × σ) := do
  let f ← (Filter.ofParams ps).mapError .filter
  let rs ← stored (Store.query s f)
  return (listing rs ("filters_applied", f.toJson), s)

def interpret (s : σ) (ps : Params) : Except ApiError (Response × σ) := do
  match ps.get? "query" with
  | none => throw (.badRequest "missing \"query\" parameter")
  | some text =>
    let q ← (Query.parse text).mapError .query
    let rs ← stored (Store.query s q.filter)
    return (listing rs ("interpreted_query", q.toJson), s)

/-- The text that a segment stands for, unless its bytes are no text. -/
def valueOfSegment? (segment : List Char) : Option String :=
  (Utf8.decode? (Percent.bytes segment)).map String.ofList

def badSegment : Response := ⟨400, .text "Invalid URL: Invalid UTF-8 in \x60value\x60"⟩

/-- A refusal leaves the store as it was. -/
def settle (s : σ) : Except ApiError (Response × σ) → Response × σ
  | .ok result => result
  | .error e => (e.toResponse, s)

def onEntry (s : σ) (segment : List Char) (act : String → Except ApiError (Response × σ)) :
    Response × σ :=
  match valueOfSegment? segment with
  | some value => settle s (act value)
  | none => (badSegment, s)

def read (s : σ) (r : Request) : Route → Response × σ
  | .collection => settle s (list s (paramsOf r))
  | .phrase => settle s (interpret s (paramsOf r))
  | .entry segment => onEntry s segment (fetch s)

def notAllowed : Response := Response.withoutBody 405

def dispatch (s : σ) (now : Instant) (r : Request) (route : Route) : Response × σ :=
  match r.method, route with
  | .get, _ => read s r route
  | .head, _ =>
    let (response, s) := read s r route
    (Response.withoutBody response.status, s)
  | .post, .collection => settle s (create s now r)
  | .delete, .entry segment => onEntry s segment (remove s)
  | _, _ => (notAllowed, s)

def respond (s : σ) (now : Instant) (r : Request) : Response × σ :=
  match r.method, Route.ofPath? r.path with
  | .options, _ => (Response.withoutBody 200, s)
  | _, none => (Response.withoutBody 404, s)
  | _, some route => dispatch s now r route

/-- Each request comes with the time at which it is answered. -/
def serve : σ → List (Instant × Request) → List Response × σ
  | s, [] => ([], s)
  | s, (now, r) :: rest =>
    let (response, s) := respond s now r
    let (responses, last) := serve s rest
    (response :: responses, last)

end Service
end TextCatalog
