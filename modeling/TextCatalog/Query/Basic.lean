import TextCatalog.Filter.Document
import TextCatalog.Query.Stage

/-!
# TextCatalog.Query.Basic

Reading an English query as a filter.

* `normalize` — the text that the stages read: lower case, without blanks at its ends.
* `check` — what must hold of the filter in the end.
* `parse` — the whole reading.
* `toJson`, `ofJson?` — queries that have been read, as JSON documents.
-/

namespace TextCatalog

/-- A query together with the filter that was read from it. -/
structure Query where
  original : String
  filter : Filter
  deriving DecidableEq

namespace Query

open Text

/-- The stages know Latin letters, decimal digits and blanks. -/
def isReadable (c : Char) : Bool := c.isLower || c.isDigit || isBlank c

def normalizeChars (s : List Char) : Except QueryError (List Char) :=
  match s with
  | [] => .error .emptyQuery
  | _ :: _ =>
    let text := trim (lowercase s)
    if text.any isReadable then .ok text else .error .noLettersOrDigits

def normalize (s : String) : Except QueryError String :=
  (normalizeChars s.toList).map String.ofList

def check (f : Filter) : Except QueryError Unit :=
  if f.isEmpty then .error .noFilter
  else
    match f.minLength, f.maxLength with
    | some min, some max => if max < min then .error (.crossedBounds min max) else .ok ()
    | _, _ => .ok ()

def filterOf (s : List Char) : Except QueryError Filter := do
  let text ← normalizeChars s
  let f ← Stage.run Stage.all text Filter.empty
  check f
  return f

def parse (s : String) : Except QueryError Query :=
  (filterOf s.toList).map fun f => ⟨s, f⟩

/-! ## Documents -/

def fieldNames : List String := ["original", "parsed_filters"]

def toJson (q : Query) : Json :=
  Json.object [("original", .str q.original), ("parsed_filters", q.filter.toQueryJson)]

def ofJson? (j : Json) : Option Query :=
  match Json.fields? fieldNames j with
  | some [original, filter] => do
    return {
      original := ← Json.required Json.toText? original
      filter := ← Json.required Filter.ofQueryJson? filter }
  | _ => none

def compact (q : Query) : String := q.toJson.compact

def parseDocument? (s : String) : Option Query := (Json.parse? s).bind ofJson?

end Query

end TextCatalog
