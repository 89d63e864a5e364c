import TextCatalog.Filter.Params
import TextCatalog.Query.Error
import TextCatalog.Store.Basic
import TextCatalog.Web.Message

/-!
# TextCatalog.Web.Error

Refusals and failures as responses. What went wrong inside a store is not told.
-/

namespace TextCatalog

inductive ApiError where
  | badRequest (what : String)
  | unprocessable (what : String)
  | notFound (what : String)
  | filter (e : FilterError)
  | query (e : QueryError)
  | store (e : StoreError)
  deriving DecidableEq

namespace ApiError

def status : ApiError → Nat
  | badRequest _ => 400
  | unprocessable _ => 422
  | notFound _ => 404
  | filter _ => 400
  | query e =>
    match e.kind with
    | .unparseable => 400
    | .conflicting => 422
  | store (.alreadyExists _) => 409
  | store (.notFound _) => 404
  | store _ => 500

def message : ApiError → String
  | badRequest what => what
  | unprocessable what => what
  | notFound what => what
  | filter e => e.message
  | query e => e.message
  | store e => e.message

def errorJson (what : String) : Json := Json.object [("error", .str what)]

def body : ApiError → Json
  | filter (.unknownNames names) =>
    Json.object [
      ("error", .str "invalid query parameters"),
      ("invalid_parameters", .arr (names.map Json.str))]
  | store (.alreadyExists _) => errorJson "string already exists in the system"
  | store (.notFound id) => errorJson (StoreError.notFound id).message
  | store _ => errorJson "internal storage error"
  | e => errorJson e.message

def toResponse (e : ApiError) : Response := Response.ofJson e.status e.body

end ApiError

end TextCatalog
