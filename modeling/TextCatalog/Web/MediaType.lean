/-!
# TextCatalog.Web.MediaType

Content types, as far as they say whether a body is JSON.

* `MediaType.parse?` — type and subtype, if the whole text is a media type.
* `isJson` — the type is `application`, the subtype `json` or one with the suffix `json`.
-/

namespace TextCatalog

structure MediaType where
  type : List Char
  subtype : List Char
  deriving DecidableEq

namespace MediaType

def isToken (c : Char) : Bool := c.isAlphanum || "!#$%&'*+-.^_`|~".toList.contains c

/-- A character that a header of text may hold. -/
def isHeaderChar (c : Char) : Bool := c == '\t' || (decide (' ' ≤ c) && decide (c ≤ '~'))

def isQuotable (c : Char) : Bool := decide (' ' ≤ c) && c != '\x7f'

/-- After a quoted value, up to the next parameter. -/
def afterQuoted : List Char → Option (List Char)
  | [] => some []
  | ' ' :: rest => afterQuoted rest
  | ';' :: rest => some rest
  | _ => none

/-- The value of a parameter; a quoted one has at least one character. -/
def dropValue : List Char → Option (List Char)
  | '"' :: c :: rest =>
    if isQuotable c then
      match rest.dropWhile fun c => isQuotable c && c != '"' with
      | '"' :: rest => afterQuoted rest
      | _ => none
    else none
  | s =>
    match s.takeWhile isToken, s.dropWhile isToken with
    | _, [] => some []
    | _ :: _, ';' :: rest => some rest
    | _, _ => none

def dropParameter (s : List Char) : Option (List Char) :=
  match s.takeWhile isToken, s.dropWhile isToken with
  | _ :: _, '=' :: rest => dropValue rest
  | _, _ => none

/-- Every parameter takes at least one character, so the length is fuel enough. -/
def parametersValid : Nat → List Char → Bool
  | _, [] => true
  | 0, _ => false
  | fuel + 1, ' ' :: rest => parametersValid fuel rest
  | fuel + 1, s =>
    match dropParameter s with
    | some rest => parametersValid fuel rest
    | none => false

def parse? (s : List Char) : Option MediaType :=
  if s.all isHeaderChar then
    match s.takeWhile isToken, s.dropWhile isToken with
    | t :: ts, '/' :: rest =>
      let subtype := rest.takeWhile isToken
      match subtype, rest.dropWhile isToken with
      | _, [] => some ⟨t :: ts, subtype⟩
      | _ :: _, ';' :: parameters =>
        if parametersValid parameters.length parameters then some ⟨t :: ts, subtype⟩ else none
      | _, _ => none
    | _, _ => none
  else none

/-- What follows the last plus sign, where one stands past the first character. -/
def suffix? (subtype : List Char) : Option (List Char) :=
  if (subtype.drop 1).contains '+' then some (subtype.reverse.takeWhile (· != '+')).reverse
  else none

/-- The subtype without its suffix. -/
def base (subtype : List Char) : List Char :=
  match suffix? subtype with
  | some suffix => subtype.take (subtype.length - suffix.length - 1)
  | none => subtype

def sameName (a : List Char) (name : String) : Bool := a.map Char.toLower == name.toList

def isJson (m : MediaType) : Bool :=
  sameName m.type "application" &&
    (sameName (base m.subtype) "json" || (suffix? m.subtype).any fun s => sameName s "json")

end MediaType

/-- Whether a content type announces JSON. -/
def announcesJson (contentType : String) : Bool :=
  (MediaType.parse? contentType.toList).any MediaType.isJson

end TextCatalog
