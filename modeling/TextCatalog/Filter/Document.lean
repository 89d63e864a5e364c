import TextCatalog.Filter.Basic
import TextCatalog.Json.Fields
import TextCatalog.Json.Printer
import TextCatalog.Json.Reader

/-!
# TextCatalog.Filter.Document

Filters as JSON documents. Fields that are not set are left out.

* `Filter.toJson` — the document.
* `Filter.ofJson?` — reading it; a filter given as an array lists its fields in the order of
  `fieldNames`.
* `Filter.toQueryJson`, `Filter.ofQueryJson?` — the same where a filter is part of a query, which
  has the word count in the second place.
-/

namespace TextCatalog
namespace Filter

def toJson (f : Filter) : Json :=
  Json.object <|
    Json.optionalMember "is_palindrome" Json.bool f.isPalindrome ++
    Json.optionalMember "min_length" Json.ofNat f.minLength ++
    Json.optionalMember "max_length" Json.ofNat f.maxLength ++
    Json.optionalMember "word_count" Json.ofNat f.wordCount ++
    Json.optionalMember "contains_character" (fun c => Json.str c.toString) f.containsCharacter

def toQueryJson (f : Filter) : Json :=
  Json.object <|
    Json.optionalMember "is_palindrome" Json.bool f.isPalindrome ++
    Json.optionalMember "word_count" Json.ofNat f.wordCount ++
    Json.optionalMember "min_length" Json.ofNat f.minLength ++
    Json.optionalMember "max_length" Json.ofNat f.maxLength ++
    Json.optionalMember "contains_character" (fun c => Json.str c.toString) f.containsCharacter

def fieldNames : List String :=
  ["is_palindrome", "min_length", "max_length", "word_count", "contains_character"]

def queryFieldNames : List String :=
  ["is_palindrome", "word_count", "min_length", "max_length", "contains_character"]

def ofFields? (isPalindrome minLength maxLength wordCount containsCharacter : Option Json) :
    Option Filter := do
  return {
    isPalindrome := ← Json.optional Json.toBool? isPalindrome
    minLength := ← Json.optional Json.toCount? minLength
    maxLength := ← Json.optional Json.toCount? maxLength
    wordCount := ← Json.optional Json.toCount? wordCount
    containsCharacter := ← Json.optional Json.toChar? containsCharacter }

def ofJson? (j : Json) : Option Filter :=
  match Json.fields? fieldNames j with
  | some [isPalindrome, minLength, maxLength, wordCount, containsCharacter] =>
    ofFields? isPalindrome minLength maxLength wordCount containsCharacter
  | _ => none

def ofQueryJson? (j : Json) : Option Filter :=
  match Json.fields? queryFieldNames j with
  | some [isPalindrome, wordCount, minLength, maxLength, containsCharacter] =>
    ofFields? isPalindrome minLength maxLength wordCount containsCharacter
  | _ => none

def compact (f : Filter) : String := f.toJson.compact

def compactInQuery (f : Filter) : String := f.toQueryJson.compact

def parse? (s : String) : Option Filter := (Json.parse? s).bind ofJson?

def parseInQuery? (s : String) : Option Filter := (Json.parse? s).bind ofQueryJson?

end Filter
end TextCatalog
