import TextCatalog.Json.Basic
import TextCatalog.Text.Utf8
import TextCatalog.Web.Percent

/-!
# TextCatalog.Web.Message

Requests and responses.

* `Request` — method, target and body. A target has a path, then a query after the first
  question mark; a scheme and authority before the path and a fragment are no part of it. A body
  is text as far as its bytes are.
* `Route` — what a path leads to.
* `Response` — status and body.
-/

namespace TextCatalog

open Text

inductive Method where
  | get
  | head
  | post
  | delete
  | options
  | other
  deriving DecidableEq

def Method.ofName : String → Method
  | "GET" => .get
  | "HEAD" => .head
  | "POST" => .post
  | "DELETE" => .delete
  | "OPTIONS" => .options
  | _ => .other

structure Request where
  method : Method
  target : String
  contentType : Option String
  body : String
  /-- The bytes of the body from the first one on that is part of no character. -/
  residue : List UInt8 := []
  deriving DecidableEq

namespace Request

def endsAuthority (c : Char) : Bool := c == '/' || c == '?' || c == '#'

/-- A target without its scheme and authority. -/
def afterAuthority (target : List Char) : List Char :=
  match target with
  | '/' :: _ => target
  | _ =>
    match target.dropWhile (· != ':') with
    | ':' :: '/' :: '/' :: rest => rest.dropWhile fun c => !endsAuthority c
    | _ => target

def pathAndQuery (r : Request) : List Char := (afterAuthority r.target.toList).takeWhile (· != '#')

def path (r : Request) : List Char := r.pathAndQuery.takeWhile (· != '?')

def query (r : Request) : List Char := (r.pathAndQuery.dropWhile (· != '?')).drop 1

end Request

/-- The segment of an entry is as it stands in the path. -/
inductive Route where
  | collection
  | phrase
  | entry (segment : List Char)
  deriving DecidableEq

namespace Route

def ofSegments? : List (List Char) → Option Route
  | [[], root] => if root = "strings".toList then some .collection else none
  | [[], root, segment] =>
    if root ≠ "strings".toList ∨ segment = [] then none
    else if segment = "filter-by-natural-language".toList then some .phrase
    else some (.entry segment)
  | _ => none

def ofPath? (path : List Char) : Option Route := ofSegments? (path.splitOn '/')

end Route

inductive Body where
  | empty
  | text (s : String)
  | json (j : Json)

structure Response where
  status : Nat
  body : Body

namespace Response

def withoutBody (status : Nat) : Response := ⟨status, .empty⟩

def ofJson (status : Nat) (j : Json) : Response := ⟨status, .json j⟩

end Response

end TextCatalog
