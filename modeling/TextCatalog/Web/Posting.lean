import TextCatalog.Json.Reader
import TextCatalog.Record.Basic
import TextCatalog.Web.Error
import TextCatalog.Web.MediaType

/-!
# TextCatalog.Web.Posting

The text that a request asks to catalogue.

* `Posting.field` — the member `value` of a document; of members of one name the last counts.
* `Posting.value` — the text, or why the body is refused.
-/

namespace TextCatalog
namespace Posting

open Text

/-- How many bytes a body may have. -/
def maxBody : Nat := 2097152

def invalidBody (what : String) : ApiError := .badRequest ("invalid request body: " ++ what)

def notAnnounced : ApiError :=
  invalidBody "Expected request with \x60Content-Type: application/json\x60"

def tooLong : ApiError := invalidBody "Failed to buffer the request body: length limit exceeded"

/-- A body that is no JSON is refused without more words. -/
def notDocument (body : List Char) (f : Json.Fault) : ApiError :=
  if f.isMalformed then invalidBody "Failed to parse the request body as JSON"
  else
    invalidBody ("Failed to deserialize the JSON body into the target type: " ++ f.report body)

def field : Json → Option Json
  | .obj members => (members.reverse.find? fun m => m.1 == some "value").map (·.2)
  | _ => none

def isBlankText (s : String) : Bool := s.toList.all isBlank

/-- A text that may be catalogued, from the member `value`. -/
def valueOf : Option Json → Except ApiError String
  | none => .error (.badRequest "missing \"value\" field")
  | some .null => .error (.badRequest "missing \"value\" field")
  | some (.str s) =>
    if isBlankText s then .error (.badRequest "\"value\" must not be empty")
    else if isCatalogable s then .ok s
    else .error (.unprocessable "\"value\" may only contain letters and whitespace")
  | some _ => .error (.unprocessable "\"value\" must be a string")

/-- A document that goes on into bytes that are no text is no JSON, and neither is its beginning. -/
def ofBody (body : String) (residue : List UInt8) : Except ApiError String :=
  if maxBody < body.utf8ByteSize + residue.length then .error tooLong
  else
    match Json.leading body.toList with
    | .error f => .error (notDocument body.toList f)
    | .ok j => valueOf (field j)

def value (r : Request) : Except ApiError String :=
  if r.contentType.any announcesJson then ofBody r.body r.residue else .error notAnnounced

end Posting
end TextCatalog
