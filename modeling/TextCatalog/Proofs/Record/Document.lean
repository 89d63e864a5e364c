import TextCatalog.Proofs.Instant.Short
import TextCatalog.Proofs.Record.Properties

/-!
# TextCatalog.Proofs.Record.Document

Properties and records are read back from their documents, whatever their texts, the names in
their maps and their times.

* `Properties.ofJson?_toJson`, `Record.ofJson?_toJson` — the documents.
* `Record.IsShownBy` — a document by its members, apart from how it is written.
* `Record.parse?_compact` — the document of a record as a text.
-/

namespace TextCatalog

namespace Properties

/-- Every field has a value. -/
def fields (p : Properties) : List (String × Option Json) :=
  p.members.map fun m => (m.1, some m.2)

theorem isPlain_toJson (p : Properties) : p.toJson.IsPlain := by
  refine Json.isPlain_object fun m mem => ?_
  simp only [members, List.mem_cons, List.not_mem_nil, or_false] at mem
  rcases mem with rfl | rfl | rfl | rfl | rfl | rfl
  · exact ⟨p.length, rfl⟩
  · trivial
  · exact ⟨p.uniqueCharacters, rfl⟩
  · exact ⟨p.wordCount, rfl⟩
  · trivial
  · exact p.frequencies.isPlain_toJson

theorem ofJson?_toJson {p : Properties} (h : p.IsCounted) : ofJson? p.toJson = some p := by
  have read : Json.fields? fieldNames p.toJson = some (p.fields.map (·.2)) :=
    Json.fields?_object p.fields (by decide : fieldNames.Nodup)
  rw [ofJson?, read]
  simp only [fields, members, List.map_cons, List.map_nil, Json.required,
    Json.toCount?_ofNat h.length, Json.toCount?_ofNat h.uniqueCharacters,
    Json.toCount?_ofNat h.wordCount, FrequencyMap.ofJson?_toJson h.frequencies,
    Json.toBool?, Json.toText?, bind, Option.bind]
  rfl

end Properties

namespace Record

def fields (r : Record) : List (String × Option Json) := [
  ("id", some (.str r.id)),
  ("value", some (.str r.value)),
  ("properties", some r.properties.toJson),
  ("created_at", some (.str r.createdAt.shortText))]

theorem isPlain_toJson (r : Record) : r.toJson.IsPlain := by
  refine Json.isPlain_membersOf r.fields ?_
  simp only [fields, List.mem_cons, List.not_mem_nil, or_false]
  rintro field (rfl | rfl | rfl | rfl) j ⟨⟩
  · trivial
  · trivial
  · exact r.properties.isPlain_toJson
  · trivial

theorem instant?_shortText (t : Instant) : instant? (.str t.shortText) = some t := by
  rw [instant?, Json.toText?, Option.bind_some, t.ofLooseText?_shortText]

theorem ofJson?_toJson {r : Record} (h : r.properties.IsCounted) : ofJson? r.toJson = some r := by
  have read : Json.fields? fieldNames r.toJson = some (r.fields.map (·.2)) :=
    Json.fields?_object r.fields (by decide : fieldNames.Nodup)
  rw [ofJson?, read]
  simp only [fields, List.map_cons, List.map_nil, Json.required, Json.toText?,
    Properties.ofJson?_toJson h, instant?_shortText, bind, Option.bind]
  rfl

/-- The document spells the record out, member by member, and is read back as the record. -/
structure IsShownBy (r : Record) (j : Json) : Prop where
  members : j = .obj [
    (some "id", .str r.id),
    (some "value", .str r.value),
    (some "properties", .obj [
      (some "length", .ofNat r.properties.length),
      (some "is_palindrome", .bool r.properties.isPalindrome),
      (some "unique_characters", .ofNat r.properties.uniqueCharacters),
      (some "word_count", .ofNat r.properties.wordCount),
      (some "sha256_hash", .str r.properties.sha256Hash),
      (some "character_frequency_map",
        .obj (r.properties.frequencies.entries.map fun e => (some e.1, .ofNat e.2)))]),
    (some "created_at", .str r.createdAt.shortText)]
  readBack : ofJson? j = some r

theorem isShownBy_toJson {r : Record} (h : r.properties.IsCounted) : r.IsShownBy r.toJson where
  members := by
    simp [toJson, undatedMembers, Properties.toJson, Properties.members, FrequencyMap.toJson,
      Json.object]
  readBack := ofJson?_toJson h

theorem parse?_compact {r : Record} (h : r.properties.IsCounted) : parse? r.compact = some r := by
  rw [parse?, compact, Json.parse?_compact r.isPlain_toJson]
  exact ofJson?_toJson h

end Record
end TextCatalog
