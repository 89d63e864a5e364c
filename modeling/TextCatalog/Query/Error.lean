/-!
# TextCatalog.Query.Error

Why a query is refused. A query is either unparseable, when it holds no phrase that can be
read, or conflicting, when its phrases ask for what no filter can give.
-/

namespace TextCatalog

inductive QueryError where
  | emptyQuery
  | noLettersOrDigits
  | noFilter
  | unresolvedRange (low high : String)
  | noSuchOrdinal (ordinal : String) (entries : Nat)
  | shorterThanZero
  | emptyRange (low high : Nat)
  | crossedBounds (min max : Nat)
  | exclusion (phrase : String)
  deriving DecidableEq

namespace QueryError

inductive Kind where
  | unparseable
  | conflicting
  deriving DecidableEq

def kind : QueryError → Kind
  | emptyQuery | noLettersOrDigits | noFilter | unresolvedRange _ _ | noSuchOrdinal _ _ =>
    .unparseable
  | shorterThanZero | emptyRange _ _ | crossedBounds _ _ | exclusion _ => .conflicting

def reason : QueryError → String
  | emptyQuery => "empty query"
  | noLettersOrDigits => "query has no letters or digits"
  | noFilter => "no recognizable filter"
  | unresolvedRange low high => "cannot resolve range '" ++ low ++ "' to '" ++ high ++ "'"
  | noSuchOrdinal ordinal entries =>
    "'" ++ ordinal ++ "' is out of range for " ++ toString entries ++ " entries"
  | shorterThanZero => "no string is shorter than 0 characters"
  | emptyRange low high =>
    "range lower bound " ++ toString low ++ " is not below upper bound " ++ toString high
  | crossedBounds min max =>
    "min_length " ++ toString min ++ " exceeds max_length " ++ toString max
  | exclusion phrase => "character exclusion ('" ++ phrase ++ "') is not supported"

def Kind.opening : Kind → String
  | .unparseable => "unable to parse natural language query: "
  | .conflicting => "query parsed but resulted in conflicting filters: "

def message (e : QueryError) : String := e.kind.opening ++ e.reason

end QueryError

end TextCatalog
