import TextCatalog.Proofs.Filter.Document
import TextCatalog.Proofs.Record.Document
import TextCatalog.Query.Basic

/-!
# TextCatalog.Proofs.Query.Document

Queries that have been read are read back from their documents; and with them all that this
library writes as documents.

* `Query.ofJson?_toJson` — the document of a query.
* `documents_exact` — records, filters in both their forms, and queries.
-/

namespace TextCatalog

namespace Query

def fields (q : Query) : List (String × Option Json) := [
  ("original", some (.str q.original)),
  ("parsed_filters", some q.filter.toQueryJson)]

theorem isPlain_toJson (q : Query) : q.toJson.IsPlain := by
  refine Json.isPlain_membersOf q.fields ?_
  simp only [fields, List.mem_cons, List.not_mem_nil, or_false]
  rintro field (rfl | rfl) j ⟨⟩
  · trivial
  · exact q.filter.isPlain_toQueryJson

theorem ofJson?_toJson {q : Query} (h : q.filter.IsCounted) : ofJson? q.toJson = some q := by
  have read : Json.fields? fieldNames q.toJson = some (q.fields.map (·.2)) :=
    Json.fields?_object q.fields (by decide : fieldNames.Nodup)
  rw [ofJson?, read]
  simp only [fields, List.map_cons, List.map_nil, Json.required, Json.toText?,
    Filter.ofQueryJson?_toQueryJson h, bind, Option.bind]
  rfl

theorem parseDocument?_compact {q : Query} (h : q.filter.IsCounted) :
    parseDocument? q.compact = some q := by
  rw [parseDocument?, compact, Json.parse?_compact q.isPlain_toJson]
  exact ofJson?_toJson h

end Query

/--
Nothing is lost in a document whose counts have 64 bits: all texts and names, fields that are not
set, far years and leap seconds are read back as they were written.
-/
theorem documents_exact :
    (∀ r : Record, r.properties.IsCounted → Record.parse? r.compact = some r) ∧
    (∀ f : Filter, f.IsCounted → Filter.parse? f.compact = some f) ∧
    (∀ f : Filter, f.IsCounted → Filter.parseInQuery? f.compactInQuery = some f) ∧
    (∀ q : Query, q.filter.IsCounted → Query.parseDocument? q.compact = some q) :=
  ⟨fun _ => Record.parse?_compact, fun _ => Filter.parse?_compact,
    fun _ => Filter.parseInQuery?_compactInQuery, fun _ => Query.parseDocument?_compact⟩

/-- A record of odd texts, the greatest count and the last instant before the year 0. -/
def oddRecord : Record where
  id := "\"\\\x00"
  value := "𝔘\u2028"
  properties := ⟨Text.countMax, false, 0, 1, "\x1f", FrequencyMap.ofMembers [("", 7), ("ß", 2)]⟩
  createdAt := ⟨-62167219201, 1999999999, by decide, by decide, by decide⟩

theorem documents_exact_odd :
    Record.parse? oddRecord.compact = some oddRecord ∧
      (let f : Filter := { minLength := some Text.countMax, containsCharacter := some '\n' }
      Filter.parse? f.compact = some f ∧ Filter.parseInQuery? f.compactInQuery = some f ∧
        Query.parseDocument? (Query.compact ⟨"\"", f⟩) = some ⟨"\"", f⟩) := by
  have record : oddRecord.properties.IsCounted := by
    refine ⟨by decide, by decide, by decide, ?_⟩
    decide
  have filter : Filter.IsCounted
      { minLength := some Text.countMax, containsCharacter := some '\n' } := by
    constructor <;> decide
  obtain ⟨records, filters, parts, queries⟩ := documents_exact
  exact ⟨records _ record, filters _ filter, parts _ filter, queries ⟨"\"", _⟩ filter⟩

end TextCatalog
