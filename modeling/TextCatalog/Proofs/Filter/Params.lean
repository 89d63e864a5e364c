import Mathlib.Data.List.Nodup
import TextCatalog.Filter.Params
import TextCatalog.Proofs.Filter.Document
import TextCatalog.Proofs.Text.Classes
import TextCatalog.Proofs.Text.Normal

/-!
# TextCatalog.Proofs.Filter.Params

Filters written as named texts and read back.

* `Params.get?_perm` — the order of parameters does not matter where each name stands once.
* `Filter.countOf?_toString`, `readFlag_flagText`, `readLetter_toString` — each kind of field.
* `Filter.ofParams_of_perm` — the texts of a filter are read as that filter, in any order.
-/

namespace TextCatalog

open Text

/-! ## Parameters by name -/

namespace Params

variable {ps qs : Params} {name text : String}

theorem get?_cons (p : String × String) (ps : Params) (name : String) :
    get? (p :: ps) name = if p.1 = name then some p.2 else ps.get? name := by
  by_cases same : p.1 = name <;> simp [get?, same]

@[simp] theorem get?_append (ps qs : Params) (name : String) :
    get? (ps ++ qs) name = (ps.get? name).or (qs.get? name) := by
  rw [get?, List.find?_append, Option.map_or]
  rfl

theorem get?_eq_some_iff (distinct : (ps.map (·.1)).Nodup) :
    ps.get? name = some text ↔ (name, text) ∈ ps := by
  induction ps with
  | nil => simp [get?]
  | cons p ps ih =>
    obtain ⟨apart, distinct⟩ := List.nodup_cons.mp distinct
    rw [get?_cons, List.mem_cons]
    by_cases same : p.1 = name
    · rw [if_pos same]
      constructor
      · rintro ⟨⟩
        exact .inl (Prod.ext same.symm rfl)
      · rintro (rfl | mem)
        · rfl
        · exact absurd (List.mem_map.mpr ⟨_, mem, same.symm⟩) apart
    · rw [if_neg same, ih distinct]
      exact ⟨.inr, fun h => h.resolve_left fun here => same (here ▸ rfl)⟩

theorem get?_perm (h : ps.Perm qs) (distinct : (qs.map (·.1)).Nodup) :
    ps.get? name = qs.get? name := by
  have distinct' : (ps.map (·.1)).Nodup := (h.map _).nodup_iff.mpr distinct
  apply Option.ext
  intro text
  rw [get?_eq_some_iff distinct', get?_eq_some_iff distinct, h.mem_iff]

end Params

namespace Filter

/-! ## Fields -/

theorem readFlag_flagText (b : Bool) : readFlag (flagText b) = .ok b := by
  cases b <;> rfl

theorem toList_toString (n : Nat) : (toString n).toList = numeral n :=
  String.toList_ofList

theorem dropPlus_of_digits {s : List Char} (h : ∀ c ∈ s, c.isDigit = true) : dropPlus s = s := by
  unfold dropPlus
  split
  · have plus := h '+' List.mem_cons_self
    cases plus
  · rfl

theorem countOf?_numeral {n : Nat} (h : n < counts) : countOf? (numeral n) = some n := by
  have ink : ∀ c ∈ numeral n, isBlank c = false := fun c mem =>
    isBlank_of_isWord (isWord_of_digit (numeral_isDigit c mem))
  have trimmed : trim (numeral n) = numeral n :=
    trim_of_ends (fun c first => ink c (List.mem_of_head? first))
      (fun c last => ink c (List.mem_of_getLast? last))
  unfold countOf?
  rw [trimmed, dropPlus_of_digits numeral_isDigit]
  exact (if_pos (List.all_eq_true.mpr numeral_isDigit)).trans (count?_numeral h)

theorem readCount_toString {n : Nat} (name : String) (h : n < counts) :
    readCount name (toString n) = .ok n := by
  rw [readCount, toList_toString, countOf?_numeral h]

theorem readLetter_toString {c : Char} (h : c.isAlpha = true) : readLetter c.toString = .ok c := by
  have one : c.toString.toList = [c] := String.toList_singleton c
  rw [readLetter, one]
  exact if_pos h

/-! ## The whole filter -/

@[simp] theorem get?_param {α : Type} (field name : String) (toText : α → String) (o : Option α) :
    Params.get? (param field toText o) name = if field = name then o.map toText else none := by
  cases o with
  | none => exact (ite_self none).symm
  | some a => exact Params.get?_cons _ [] name

theorem names_param {α : Type} (field : String) (toText : α → String) (o : Option α) :
    ((param field toText o).map (·.1)).Sublist [field] := by
  cases o with
  | none => exact List.nil_sublist _
  | some a => exact List.Sublist.refl _

theorem names_toParams (f : Filter) : (f.toParams.map (·.1)).Sublist paramNames := by
  simp only [toParams, List.map_append]
  exact ((((names_param _ _ _).append (names_param _ _ _)).append (names_param _ _ _)).append
    (names_param _ _ _)).append (names_param _ _ _)

theorem names_distinct (f : Filter) : (f.toParams.map (·.1)).Nodup :=
  (names_toParams f).nodup (by decide)

theorem unknownNames_eq_nil {ps : Params} (h : ∀ name ∈ ps.map (·.1), name ∈ paramNames) :
    unknownNames ps = [] := by
  have known : (ps.map (·.1)).filter (fun name => !paramNames.contains name) = [] := by
    apply List.filter_eq_nil_iff.mpr
    intro name mem
    simp [h name mem]
  rw [unknownNames, known]
  exact List.mergeSort_nil

theorem readParam_written {α : Type} {ps : Params} {name : String} (toText : α → String)
    {read : String → Except FilterError α} {o : Option α} (written : ps.get? name = o.map toText)
    (back : ∀ a ∈ o, read (toText a) = .ok a) : readParam ps name read = .ok o := by
  rw [readParam, written]
  cases o with
  | none => rfl
  | some a => exact congrArg (Except.map some) (back a rfl)

theorem ofParams_of_perm {f : Filter} {ps : Params} (written : ps.Perm f.toParams)
    (counted : f.IsCounted) (letter : ∀ c ∈ f.containsCharacter, c.isAlpha = true) :
    ofParams ps = .ok f := by
  have known : unknownNames ps = [] := by
    apply unknownNames_eq_nil
    intro name mem
    exact (names_toParams f).subset ((written.map _).mem_iff.mp mem)
  have get (name : String) : ps.get? name = f.toParams.get? name :=
    Params.get?_perm written f.names_distinct
  have flag : readParam ps "is_palindrome" readFlag = .ok f.isPalindrome :=
    readParam_written flagText (by simp [get, toParams]) fun b _ => readFlag_flagText b
  have count (name : String) (o : Option Nat) (fits : ∀ n ∈ o, n < counts)
      (here : f.toParams.get? name = o.map toString) :
      readParam ps name (readCount name) = .ok o :=
    readParam_written toString (by rw [get, here]) fun n mem => readCount_toString name (fits n mem)
  have least := count "min_length" f.minLength counted.minLength (by simp [toParams])
  have most := count "max_length" f.maxLength counted.maxLength (by simp [toParams])
  have words := count "word_count" f.wordCount counted.wordCount (by simp [toParams])
  have contains : readParam ps "contains_character" readLetter = .ok f.containsCharacter :=
    readParam_written Char.toString (by simp [get, toParams]) fun c mem =>
      readLetter_toString (letter c mem)
  rw [ofParams, known]
  simp only [flag, least, most, words, contains]
  rfl

end Filter
end TextCatalog
