import TextCatalog.Instant.Reader
import TextCatalog.Json.Printer
import TextCatalog.Web.Service

/-!
# TextCatalog.Web.Line

Requests and responses as lines of text, for running the service over plain input.

* `TimedRequest.ofLine?` — time, method, target and, after them, the body of a request, with one
  space between the parts. A body is JSON.
* `Response.line` — status and body of a response.
* `Service.answerLine` — the answer to a line; a line that holds no request changes nothing.
-/

namespace TextCatalog

structure TimedRequest where
  time : Instant
  request : Request

namespace TimedRequest

/-- The text before the first space, and the text after it. -/
def word (s : List Char) : String × List Char :=
  (String.ofList (s.takeWhile (· != ' ')), (s.dropWhile (· != ' ')).drop 1)

def requestOf (method target : String) (body : List Char) : Request where
  method := Method.ofName method
  target := target
  contentType := if body.isEmpty then none else some "application/json"
  body := String.ofList body

def ofLine? (line : List Char) : Option TimedRequest :=
  let (time, line) := word line
  let (method, line) := word line
  let (target, body) := word line
  (Instant.ofStrictText? time).map fun t => ⟨t, requestOf method target body⟩

end TimedRequest

namespace Body

def suffix : Body → String
  | .empty => ""
  | .text s => " " ++ s
  | .json j => " " ++ j.compact

end Body

def Response.line (r : Response) : String := toString r.status ++ r.body.suffix

namespace Service

variable {σ : Type} [Store σ]

def answerLine (s : σ) (line : List Char) : String × σ :=
  match TimedRequest.ofLine? line with
  | none => ("not a request", s)
  | some r =>
    let (response, s) := respond s r.time r.request
    (response.line, s)

end Service

end TextCatalog
