import Mathlib.Data.List.TakeWhile
import TextCatalog.Proofs.Filter.Params
import TextCatalog.Proofs.Query.Counted
import TextCatalog.Proofs.Web.Form
import TextCatalog.Store.Memory

/-!
# TextCatalog.Proofs.Web.Interpretation

A query in English over the web, and the parameters that ask for the same.

* `Request.path_eq`, `Request.query_eq` — the two parts of a target.
* `Service.AsksInWords`, `Service.AsksByField` — the requests, in any spelling of their texts.
* `Service.AnswersWords` — the query is interpreted as it is parsed, and its fields, sent as
  parameters, give the same records.
* `Service.respond_inWords` — every such request is answered so, over every store.
-/

namespace TextCatalog

open Text

/-! ## The parts of a target -/

namespace Request

variable {r : Request} {path query : List Char}

theorem pathAndQuery_eq (target : r.target.toList = '/' :: path ++ '?' :: query)
    (hp : '#' ∉ path) (hq : '#' ∉ query) :
    r.pathAndQuery = '/' :: path ++ '?' :: query := by
  have whole : afterAuthority r.target.toList = '/' :: path ++ '?' :: query := by
    rw [target]
    rfl
  rw [pathAndQuery, whole, List.takeWhile_eq_self_iff]
  intro c mem
  rw [bne_iff_ne]
  rintro rfl
  simp [hp, hq] at mem

theorem not_question (hp : '?' ∉ path) : ∀ c ∈ '/' :: path, (c != '?') = true := by
  intro c mem
  rw [bne_iff_ne]
  rintro rfl
  simp [hp] at mem

theorem path_eq (whole : r.pathAndQuery = '/' :: path ++ '?' :: query) (hp : '?' ∉ path) :
    r.path = '/' :: path := by
  rw [Request.path, whole, List.takeWhile_append_of_pos (not_question hp)]
  exact List.append_nil _

theorem query_eq (whole : r.pathAndQuery = '/' :: path ++ '?' :: query) (hp : '?' ∉ path) :
    r.query = query := by
  rw [Request.query, whole, List.dropWhile_append_of_pos (not_question hp)]
  rfl

end Request

namespace Service

/-! ## Requests -/

/-- A request for the records that an English query describes, the query in any spelling. -/
structure AsksInWords (query : String) (r : Request) : Prop where
  method : r.method = .get
  target : ∃ e, Form.Writes e query ∧
    r.target.toList = "/strings/filter-by-natural-language?query=".toList ++ e

/-- A request for the records that a filter accepts, its fields in any order and spelling. -/
structure AsksByField (f : Filter) (r : Request) : Prop where
  method : r.method = .get
  target : ∃ ps e, ps.Perm f.toParams ∧ Form.WritesAll e ps ∧
    r.target.toList = "/strings?".toList ++ e

variable {σ : Type} [Store σ] {s : σ} {now : Instant} {r : Request} {query : String} {f : Filter}

theorem respond_get (route : Route) (method : r.method = .get)
    (leads : Route.ofPath? r.path = some route) : respond s now r = read s r route := by
  rw [respond, method, leads]
  simp only [dispatch, method]

/-- A target that writes its parameters leads to its path with these parameters. -/
theorem parts_of_target {path e : List Char} {ps : Params}
    (target : r.target.toList = '/' :: path ++ '?' :: e) (plain : '#' ∉ path ∧ '?' ∉ path)
    (written : Form.WritesAll e ps) (distinct : (ps.map (·.1)).Nodup) :
    r.path = '/' :: path ∧ paramsOf r = ps := by
  have whole := Request.pathAndQuery_eq target plain.1 written.not_mem
  rw [← Request.query_eq whole plain.2] at written
  exact ⟨Request.path_eq whole plain.2, paramsOf_eq written distinct⟩

theorem AsksInWords.respond_eq (asked : AsksInWords query r) :
    respond s now r = settle s (interpret s [("query", query)]) := by
  obtain ⟨e, written, target⟩ := asked.target
  have pair : Form.WritesPair ("query=".toList ++ e) ("query", query) :=
    ⟨Form.encode "query".toList, e, rfl, by decide, Form.writes_encode _, written⟩
  have all : Form.WritesAll ("query=".toList ++ e) [("query", query)] :=
    ⟨_, (List.append_nil _).symm, .cons pair .nil⟩
  have target : r.target.toList =
      '/' :: "strings/filter-by-natural-language".toList ++ '?' :: ("query=".toList ++ e) :=
    target
  obtain ⟨path, params⟩ := parts_of_target target (by decide) all (by simp)
  rw [respond_get .phrase asked.method (by rw [path]; decide), read, params]

theorem AsksByField.respond_eq (asked : AsksByField f r) (s : σ) (now : Instant) :
    ∃ ps, ps.Perm f.toParams ∧ respond s now r = settle s (list s ps) := by
  obtain ⟨ps, e, perm, all, target⟩ := asked.target
  have distinct : (ps.map (·.1)).Nodup := (perm.map _).nodup_iff.mpr f.names_distinct
  have target : r.target.toList = '/' :: "strings".toList ++ '?' :: e := target
  obtain ⟨path, params⟩ := parts_of_target target (by decide) all distinct
  refine ⟨ps, perm, ?_⟩
  rw [respond_get .collection asked.method (by rw [path]; decide), read, params]

/-! ## Answers -/

theorem interpret_refused {e : QueryError} (refused : Query.parse query = .error e) :
    interpret s [("query", query)] = .error (.query e) := by
  have text : Params.get? [("query", query)] "query" = some query := Params.get?_cons _ _ _
  simp only [interpret, text, refused]
  rfl

theorem AsksInWords.respond_refused (asked : AsksInWords query r) {e : QueryError}
    (refused : Query.parse query = .error e) :
    respond s now r = ((ApiError.query e).toResponse, s) := by
  rw [asked.respond_eq, interpret_refused refused]
  rfl

theorem interpret_parsed {q : Query} {rs : List Record} (parsed : Query.parse query = .ok q)
    (found : Store.query s q.filter = .ok rs) :
    interpret s [("query", query)] = .ok (listing rs ("interpreted_query", q.toJson), s) := by
  have text : Params.get? [("query", query)] "query" = some query := Params.get?_cons _ _ _
  simp only [interpret, text, parsed, Except.mapError, bind, Except.bind, stored, found]
  rfl

theorem list_read {ps : Params} {rs : List Record} (read : Filter.ofParams ps = .ok f)
    (found : Store.query s f = .ok rs) :
    list s ps = .ok (listing rs ("filters_applied", f.toJson), s) := by
  simp only [list, read, Except.mapError, bind, Except.bind, stored, found]
  rfl

/-- The fields that a query is read as are parameters that read as these fields. -/
theorem ofParams_of_parse {q : Query} {ps : Params} (parsed : Query.parse query = .ok q)
    (written : ps.Perm q.filter.toParams) : Filter.ofParams ps = .ok q.filter := by
  obtain ⟨counted, latin⟩ := Query.isCounted_of_parse parsed
  refine Filter.ofParams_of_perm written counted fun c mem => ?_
  obtain ⟨low, high⟩ := latin c mem
  exact isAlpha_of_latin low high

/-- How a store answers a query in English, and the fields that the query is read as. -/
structure AnswersWords (s : σ) (query : String) (r : Request) : Prop where
  unparseable : ∀ e now, Query.parse query = .error e → e.kind = .unparseable →
    respond s now r = (Response.ofJson 400 (ApiError.errorJson e.message), s)
  conflicting : ∀ e now, Query.parse query = .error e → e.kind = .conflicting →
    respond s now r = (Response.ofJson 422 (ApiError.errorJson e.message), s)
  interpreted : ∀ q rs now, Query.parse query = .ok q → Store.query s q.filter = .ok rs →
    respond s now r = (Response.ofJson 200 (Json.object [
      ("data", .arr (rs.map Record.toJson)),
      ("count", Json.ofNat rs.length),
      ("interpreted_query", Json.object [
        ("original", .str query),
        ("parsed_filters", q.filter.toQueryJson)])]), s)
  listed : ∀ q rs now r', Query.parse query = .ok q → Store.query s q.filter = .ok rs →
    AsksByField q.filter r' →
    respond s now r' = (Response.ofJson 200 (Json.object [
      ("data", .arr (rs.map Record.toJson)),
      ("count", Json.ofNat rs.length),
      ("filters_applied", q.filter.toJson)]), s)

/--
Every query in English is refused or interpreted as it is parsed, whatever the store holds; the
fields that it is read as, sent as parameters, give the same records.
-/
theorem respond_inWords (s : σ) (asked : AsksInWords query r) : AnswersWords s query r where
  unparseable e now refused kind := by
    rw [asked.respond_refused refused, ApiError.toResponse, ApiError.status, kind]
    rfl
  conflicting e now refused kind := by
    rw [asked.respond_refused refused, ApiError.toResponse, ApiError.status, kind]
    rfl
  interpreted q rs now parsed found := by
    have original : q.original = query := (Query.parse_eq_ok_iff.mp parsed).2
    rw [asked.respond_eq, interpret_parsed parsed found, ← original]
    rfl
  listed q rs now r' parsed found fields := by
    obtain ⟨ps, written, answer⟩ := fields.respond_eq s now
    rw [answer, list_read (ofParams_of_parse parsed written) found]
    rfl

theorem respond_inWords_accent :
    let noon := Record.ofText "noon" ⟨0, 0, by decide, by decide, by decide⟩
    let s := Memory.ofRecords [noon]
    let words : Request := ⟨.get, "/strings/filter-by-natural-language?query=%c3%a9+palindromes",
      none, "", []⟩
    let fields : Request := ⟨.get, "/strings?is_palindrome=true", none, "", []⟩
    AsksInWords "é palindromes" words ∧
      respond s noon.createdAt words = (listing [noon] ("interpreted_query", Json.object [
        ("original", .str "é palindromes"),
        ("parsed_filters", Json.object [("is_palindrome", .bool true)])]), s) ∧
      respond s noon.createdAt fields = (listing [noon] ("filters_applied", Json.object [
        ("is_palindrome", .bool true)]), s) := by
  intro noon s words fields
  have read : Query.parse "é palindromes" =
      .ok ⟨"é palindromes", { isPalindrome := some true }⟩ := by
    rfl
  have asked : AsksInWords "é palindromes" words :=
    ⟨rfl, Form.encode "é palindromes".toList, Form.writes_encode _, by decide⟩
  have asked' : AsksByField { isPalindrome := some true } fields := by
    have pair : Form.WritesPair "is_palindrome=true".toList ("is_palindrome", "true") :=
      ⟨Form.encode "is_palindrome".toList, Form.encode "true".toList, rfl, by decide,
        Form.writes_encode _, Form.writes_encode _⟩
    have all : Form.WritesAll "is_palindrome=true".toList [("is_palindrome", "true")] :=
      ⟨["is_palindrome=true".toList], rfl, .cons pair .nil⟩
    exact ⟨rfl, _, _, .refl _, all, by decide⟩
  have found : Store.query s { isPalindrome := some true } = .ok [noon] :=
    congrArg Except.ok (List.mergeSort_singleton noon)
  have answers := respond_inWords s asked
  exact ⟨asked, answers.interpreted _ _ _ read found, answers.listed _ _ _ _ read found asked'⟩

end Service
end TextCatalog
