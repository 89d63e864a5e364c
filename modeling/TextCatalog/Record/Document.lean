import TextCatalog.Instant.Printer
import TextCatalog.Instant.Reader
import TextCatalog.Json.Counts
import TextCatalog.Json.Fields
import TextCatalog.Json.Printer
import TextCatalog.Record.Basic

/-!
# TextCatalog.Record.Document

Records and their parts as JSON documents.

* `toJson`, `ofJson?` — of frequency maps, properties and records.
* `FrequencyMap.compact`, `FrequencyMap.read` — a frequency map as a text of its own.
-/

namespace TextCatalog

namespace FrequencyMap

def toJson (m : FrequencyMap) : Json :=
  Json.object (m.entries.map fun e => (e.1, Json.ofNat e.2))

def memberOf? (m : Option String × Json) : Option (String × Nat) :=
  match m.1, m.2.toCount? with
  | some name, some count => some (name, count)
  | _, _ => none

def ofJson? : Json → Option FrequencyMap
  | .obj members => (members.mapM memberOf?).map ofMembers
  | _ => none

def compact (m : FrequencyMap) : String := m.toJson.compact

/-- Of a name that is given twice the last count stands. -/
def read (s : List Char) : Except Json.Fault FrequencyMap := (Json.readCounts s).map ofMembers

def parse? (s : String) : Option FrequencyMap := (read s.toList).toOption

end FrequencyMap

namespace Properties

def fieldNames : List String :=
  ["length", "is_palindrome", "unique_characters", "word_count", "sha256_hash",
   "character_frequency_map"]

def members (p : Properties) : List (String × Json) :=
  [("length", Json.ofNat p.length),
   ("is_palindrome", .bool p.isPalindrome),
   ("unique_characters", Json.ofNat p.uniqueCharacters),
   ("word_count", Json.ofNat p.wordCount),
   ("sha256_hash", .str p.sha256Hash),
   ("character_frequency_map", p.frequencies.toJson)]

def toJson (p : Properties) : Json := Json.object p.members

def ofJson? (j : Json) : Option Properties :=
  match Json.fields? fieldNames j with
  | some [length, isPalindrome, uniqueCharacters, wordCount, sha256Hash, frequencies] => do
    return {
      length := ← Json.required Json.toCount? length
      isPalindrome := ← Json.required Json.toBool? isPalindrome
      uniqueCharacters := ← Json.required Json.toCount? uniqueCharacters
      wordCount := ← Json.required Json.toCount? wordCount
      sha256Hash := ← Json.required Json.toText? sha256Hash
      frequencies := ← Json.required FrequencyMap.ofJson? frequencies }
  | _ => none

end Properties

namespace Record

def fieldNames : List String := ["id", "value", "properties", "created_at"]

/-- What a record says apart from when it was made. -/
def undatedMembers (r : Record) : List (String × Json) :=
  [("id", .str r.id), ("value", .str r.value), ("properties", r.properties.toJson)]

def toJson (r : Record) : Json :=
  Json.object (r.undatedMembers ++ [("created_at", .str r.createdAt.shortText)])

def instant? (j : Json) : Option Instant := j.toText?.bind Instant.ofLooseText?

def ofJson? (j : Json) : Option Record :=
  match Json.fields? fieldNames j with
  | some [id, value, properties, createdAt] => do
    return {
      id := ← Json.required Json.toText? id
      value := ← Json.required Json.toText? value
      properties := ← Json.required Properties.ofJson? properties
      createdAt := ← Json.required instant? createdAt }
  | _ => none

def compact (r : Record) : String := r.toJson.compact

def parse? (s : String) : Option Record := (Json.parse? s).bind ofJson?

end Record

end TextCatalog
