import TextCatalog.Filter.Document
import TextCatalog.Proofs.Json.Fields

/-!
# TextCatalog.Proofs.Filter.Document

Filters are read back from their documents, in both orders of the fields.

* `Filter.IsCounted` — every bound is a count of 64 bits.
* `ofJson?_toJson`, `ofQueryJson?_toQueryJson` — the documents of such filters.
-/

namespace TextCatalog
namespace Filter

open Text

/-- Every bound is a count of 64 bits. -/
structure IsCounted (f : Filter) : Prop where
  minLength : ∀ n ∈ f.minLength, n < counts
  maxLength : ∀ n ∈ f.maxLength, n < counts
  wordCount : ∀ n ∈ f.wordCount, n < counts

def letterJson (c : Char) : Json := .str c.toString

theorem toChar?_letterJson (c : Char) : (letterJson c).toChar? = some c := by
  simp [letterJson, Json.toChar?]

/-! ## Fields -/

def fields (f : Filter) : List (String × Option Json) := [
  ("is_palindrome", f.isPalindrome.map Json.bool),
  ("min_length", f.minLength.map Json.ofNat),
  ("max_length", f.maxLength.map Json.ofNat),
  ("word_count", f.wordCount.map Json.ofNat),
  ("contains_character", f.containsCharacter.map letterJson)]

def queryFields (f : Filter) : List (String × Option Json) := [
  ("is_palindrome", f.isPalindrome.map Json.bool),
  ("word_count", f.wordCount.map Json.ofNat),
  ("min_length", f.minLength.map Json.ofNat),
  ("max_length", f.maxLength.map Json.ofNat),
  ("contains_character", f.containsCharacter.map letterJson)]

theorem toJson_eq (f : Filter) : f.toJson = Json.object (Json.membersOf f.fields) := by
  simp only [fields, Json.membersOf_cons, Json.membersOf_nil, List.append_nil, ← List.append_assoc]
  rfl

theorem toQueryJson_eq (f : Filter) :
    f.toQueryJson = Json.object (Json.membersOf f.queryFields) := by
  simp only [queryFields, Json.membersOf_cons, Json.membersOf_nil, List.append_nil,
    ← List.append_assoc]
  rfl

theorem queryFields_perm (f : Filter) : f.queryFields.Perm f.fields := by
  refine .cons _ ?_
  exact (List.Perm.swap _ _ _).trans (.cons _ (.swap _ _ _))

theorem isPlain_fields (f : Filter) : ∀ field ∈ f.fields, ∀ j ∈ field.2, j.IsPlain := by
  have flag : ∀ j ∈ f.isPalindrome.map Json.bool, j.IsPlain := by
    intro j value
    obtain ⟨b, _, rfl⟩ := Option.map_eq_some_iff.mp value
    trivial
  have count : ∀ n : Option Nat, ∀ j ∈ n.map Json.ofNat, j.IsPlain := by
    intro n j value
    obtain ⟨n, _, rfl⟩ := Option.map_eq_some_iff.mp value
    exact ⟨n, rfl⟩
  have letter : ∀ j ∈ f.containsCharacter.map letterJson, j.IsPlain := by
    intro j value
    obtain ⟨c, _, rfl⟩ := Option.map_eq_some_iff.mp value
    trivial
  simp only [fields, List.mem_cons, List.not_mem_nil, or_false]
  rintro field (rfl | rfl | rfl | rfl | rfl)
  · exact flag
  · exact count _
  · exact count _
  · exact count _
  · exact letter

theorem isPlain_toJson (f : Filter) : f.toJson.IsPlain := by
  rw [toJson_eq]
  exact Json.isPlain_membersOf f.fields f.isPlain_fields

theorem isPlain_toQueryJson (f : Filter) : f.toQueryJson.IsPlain := by
  rw [toQueryJson_eq]
  exact Json.isPlain_membersOf f.queryFields fun field mem =>
    f.isPlain_fields field ((queryFields_perm f).mem_iff.mp mem)

/-! ## Reading -/

theorem ofFields?_written {f : Filter} (h : f.IsCounted) :
    ofFields? (f.isPalindrome.map Json.bool) (f.minLength.map Json.ofNat)
      (f.maxLength.map Json.ofNat) (f.wordCount.map Json.ofNat)
      (f.containsCharacter.map letterJson) = some f := by
  have flag : Json.optional Json.toBool? (f.isPalindrome.map Json.bool) = some f.isPalindrome :=
    Json.optional_map rfl fun _ _ => rfl
  have count (value : Option Nat) (fits : ∀ n ∈ value, n < counts) :
      Json.optional Json.toCount? (value.map Json.ofNat) = some value :=
    Json.optional_map rfl fun n mem => Json.toCount?_ofNat (fits n mem)
  have letter : Json.optional Json.toChar? (f.containsCharacter.map letterJson) =
      some f.containsCharacter :=
    Json.optional_map rfl fun c _ => toChar?_letterJson c
  simp only [ofFields?, flag, count _ h.minLength, count _ h.maxLength, count _ h.wordCount, letter,
    bind, Option.bind]
  rfl

theorem ofJson?_toJson {f : Filter} (h : f.IsCounted) : ofJson? f.toJson = some f := by
  have read : Json.fields? fieldNames f.toJson = some (f.fields.map (·.2)) := by
    rw [toJson_eq]
    exact Json.fields?_object f.fields (by decide : fieldNames.Nodup)
  rw [ofJson?, read]
  exact ofFields?_written h

theorem ofQueryJson?_toQueryJson {f : Filter} (h : f.IsCounted) :
    ofQueryJson? f.toQueryJson = some f := by
  have read : Json.fields? queryFieldNames f.toQueryJson = some (f.queryFields.map (·.2)) := by
    rw [toQueryJson_eq]
    exact Json.fields?_object f.queryFields (by decide : queryFieldNames.Nodup)
  rw [ofQueryJson?, read]
  exact ofFields?_written h

theorem parse?_compact {f : Filter} (h : f.IsCounted) : parse? f.compact = some f := by
  rw [parse?, compact, Json.parse?_compact f.isPlain_toJson]
  exact ofJson?_toJson h

theorem parseInQuery?_compactInQuery {f : Filter} (h : f.IsCounted) :
    parseInQuery? f.compactInQuery = some f := by
  rw [parseInQuery?, compactInQuery, Json.parse?_compact f.isPlain_toQueryJson]
  exact ofQueryJson?_toQueryJson h

end Filter
end TextCatalog
