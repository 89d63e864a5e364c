import TextCatalog.Proofs.Text.Folding
import TextCatalog.Query.Basic

/-!
# TextCatalog.Proofs.Query.Insensitive

What a query may differ in without asking for anything else.

* `Resembles` — texts that differ in the case of letters of ASCII and in blanks at their ends.
* `normalForm_eq` — their normal forms are equal, and so is all that is read from them.
* `normalForm_normalForm` — a normal form is its own.
* `parse_insensitive` — both, for whole queries and whatever comes of them.
-/

namespace TextCatalog
namespace Query

open Text

variable {s t : List Char}

/-- The same but for the case of letters of ASCII and for the blanks at the ends. -/
def Resembles (s t : List Char) : Prop :=
  ∃ before core after before' core' after',
    s = before ++ core ++ after ∧ t = before' ++ core' ++ after' ∧
      (∀ c ∈ before ++ after ++ before' ++ after', isBlank c = true) ∧
      core.map asciiLower = core'.map asciiLower

def normalForm (s : List Char) : List Char := trim (lowercase s)

theorem normalForm_blanks {before after : List Char} (first : ∀ c ∈ before, isBlank c = true)
    (last : ∀ c ∈ after, isBlank c = true) (s : List Char) :
    normalForm (before ++ s ++ after) = normalForm s := by
  rw [normalForm, lowercase_between first last, trim_blanks first last]
  rfl

theorem normalForm_eq (h : Resembles s t) : normalForm s = normalForm t := by
  obtain ⟨before, core, after, before', core', after', rfl, rfl, blank, same⟩ := h
  simp only [List.forall_mem_append] at blank
  obtain ⟨⟨⟨first, last⟩, first'⟩, last'⟩ := blank
  have lower : lowercase core = lowercase core' := by
    rw [← lowercase_toLower core, ← lowercase_toLower core']
    exact congrArg lowercase same
  rw [normalForm_blanks first last, normalForm_blanks first' last', normalForm, lower]
  rfl

/-- The normal form is a part of the text in lower case, where nothing is left to be changed. -/
theorem normalForm_normalForm (s : List Char) : normalForm (normalForm s) = normalForm s := by
  have kept : ∀ c ∈ normalForm s, IsKept c := by
    intro c mem
    obtain ⟨before, after, split, _⟩ := trim_split (lowercase s)
    refine isKept_of_mem_lowerAfter [] s c ?_
    rw [← lowercase, split]
    exact List.mem_append_left _ (List.mem_append_right _ mem)
  rw [normalForm, lowercase_of_kept kept, normalForm, trim_trim]

theorem normalizeChars_of_ne_nil (ne : s ≠ []) : normalizeChars s =
    if (normalForm s).any isReadable then .ok (normalForm s) else .error .noLettersOrDigits := by
  cases s with
  | nil => exact absurd rfl ne
  | cons c s => rfl

theorem normalizeChars_eq_ok (h : normalizeChars s = .ok t) :
    t = normalForm s ∧ (normalForm s).any isReadable = true := by
  cases s with
  | nil => cases h
  | cons c s =>
    rw [normalizeChars_of_ne_nil (List.cons_ne_nil c s)] at h
    split at h
    · rename_i readable
      cases h
      exact ⟨rfl, readable⟩
    · cases h

theorem normalizeChars_resembling (ne : s ≠ []) (ne' : t ≠ []) (h : Resembles s t) :
    normalizeChars s = normalizeChars t := by
  rw [normalizeChars_of_ne_nil ne, normalizeChars_of_ne_nil ne', normalForm_eq h]

theorem normalizeChars_again (h : normalizeChars s = .ok t) : normalizeChars t = .ok t := by
  obtain ⟨rfl, readable⟩ := normalizeChars_eq_ok h
  have ne : normalForm s ≠ [] := by
    intro empty
    rw [empty] at readable
    cases readable
  rw [normalizeChars_of_ne_nil ne, normalForm_normalForm, if_pos readable]

theorem filterOf_congr (h : normalizeChars s = normalizeChars t) : filterOf s = filterOf t := by
  rw [filterOf, filterOf, h]

theorem map_filter_parse (q : String) : (parse q).map (·.filter) = filterOf q.toList := by
  unfold parse
  cases filterOf q.toList <;> rfl

theorem toList_ne_nil {q : String} (ne : q ≠ "") : q.toList ≠ [] :=
  fun empty => ne (String.toList_eq_nil_iff.mp empty)

theorem normalize_eq_ok_iff {q t : String} :
    normalize q = .ok t ↔ normalizeChars q.toList = .ok t.toList := by
  unfold normalize
  cases normalizeChars q.toList with
  | error e => exact iff_of_false (by rintro ⟨⟩) (by rintro ⟨⟩)
  | ok s =>
    constructor
    · rintro ⟨⟩
      rw [String.toList_ofList]
    · rintro ⟨⟩
      exact congrArg Except.ok (String.ofList_toList)

/--
Queries that resemble each other are read as the same filter or refused for the same reason. A query
in normal form is its own normal form, and is read as the query that it is the normal form of.
-/
theorem parse_insensitive :
    (∀ q q' : String, q ≠ "" → q' ≠ "" → Resembles q.toList q'.toList →
      (parse q).map (·.filter) = (parse q').map (·.filter)) ∧
    ∀ q t : String, normalize q = .ok t →
      normalize t = .ok t ∧ (parse t).map (·.filter) = (parse q).map (·.filter) := by
  refine ⟨fun q q' ne ne' alike => ?_, fun q t normal => ?_⟩
  · rw [map_filter_parse, map_filter_parse]
    exact filterOf_congr (normalizeChars_resembling (toList_ne_nil ne) (toList_ne_nil ne') alike)
  · have normal := normalize_eq_ok_iff.mp normal
    have again := normalizeChars_again normal
    refine ⟨normalize_eq_ok_iff.mpr again, ?_⟩
    rw [map_filter_parse, map_filter_parse]
    exact filterOf_congr (again.trans normal.symm)

/-- A final sigma before blanks at the end, and a capital that is two characters in lower case. -/
theorem parse_insensitive_sigma :
    (parse "\u2003Longer THAN 5 for \u03a3\u039f\u03a3 \t").map (·.filter) =
        (parse "lONGER than 5 FOR \u03a3\u039f\u03a3").map (·.filter) ∧
      normalize " \u0130\u03a3 Palindrome" = .ok "i\u0307\u03c2 palindrome" ∧
      normalize "i\u0307\u03c2 palindrome" = .ok "i\u0307\u03c2 palindrome" := by
  have normal : normalize " \u0130\u03a3 Palindrome" = .ok "i\u0307\u03c2 palindrome" := by
    decide +kernel
  refine ⟨parse_insensitive.1 _ _ (by decide) (by decide) ?_, normal,
    (parse_insensitive.2 _ _ normal).1⟩
  exact ⟨['\u2003'], "Longer THAN 5 for \u03a3\u039f\u03a3".toList, [' ', '\t'], [],
    "lONGER than 5 FOR \u03a3\u039f\u03a3".toList, [], by decide, by decide,
    List.all_eq_true.mp (by decide), by decide⟩

end Query
end TextCatalog
