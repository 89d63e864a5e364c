import Mathlib.Data.List.Sort
import TextCatalog.Proofs.Filter.Params
import TextCatalog.Proofs.Text.Context
import TextCatalog.Proofs.Traversal

/-!
# TextCatalog.Proofs.Filter.Validation

Which parameters make a filter, which filter that is, and why all others are refused.

* `WritesFlag`, `WritesCount`, `WritesLetter` — the texts of a field and what they stand for.
* `Params.Gives` — a field is set to what its parameter says, and unset without one.
* `Params.Refuses` — all names that are not known, or the first parameter with a malformed text.
* `Filter.ofParams_exact` — the filter and the refusal are these, whatever the order of the names.
-/

namespace TextCatalog

open Text

variable {α : Type} {ps : Params} {name text : String} {e fault : FilterError}

/-! ## Texts of fields -/

def WritesFlag (text : String) (b : Bool) : Prop :=
  (text = "true" ∧ b = true) ∨ (text = "false" ∧ b = false)

/-- Digits between blanks, with a plus sign before them or without one. -/
def WritesCount (text : String) (n : Nat) : Prop :=
  ∃ before sign digits after, text.toList = before ++ (sign ++ digits) ++ after ∧
    (∀ c ∈ before, isBlank c = true) ∧ (∀ c ∈ after, isBlank c = true) ∧
    (sign = [] ∨ sign = ['+']) ∧ digits ≠ [] ∧ (∀ c ∈ digits, c.isDigit = true) ∧
    numeralValue digits = n ∧ n < counts

def WritesLetter (text : String) (c : Char) : Prop := text.toList = [c] ∧ c.isAlpha = true

namespace Filter

theorem isBlank_of_digit {c : Char} (h : c.isDigit = true) : isBlank c = false :=
  isBlank_of_isWord (isWord_of_digit h)

theorem dropPlus_split (s : List Char) :
    ∃ sign, s = sign ++ dropPlus s ∧ (sign = [] ∨ sign = ['+']) := by
  unfold dropPlus
  split
  · exact ⟨['+'], rfl, .inr rfl⟩
  · exact ⟨[], rfl, .inl rfl⟩

theorem dropPlus_signed {sign digits : List Char} (signed : sign = [] ∨ sign = ['+'])
    (all : ∀ c ∈ digits, c.isDigit = true) : dropPlus (sign ++ digits) = digits := by
  rcases signed with rfl | rfl
  · exact dropPlus_of_digits all
  · rfl

theorem trim_signed {before sign digits after : List Char} (ne : digits ≠ [])
    (signed : sign = [] ∨ sign = ['+']) (all : ∀ c ∈ digits, c.isDigit = true)
    (blank : ∀ c ∈ before, isBlank c = true) (blank' : ∀ c ∈ after, isBlank c = true) :
    trim (before ++ (sign ++ digits) ++ after) = sign ++ digits := by
  refine trim_between (List.append_ne_nil_of_right_ne_nil sign ne) ?_ ?_ blank blank'
  · rcases signed with rfl | rfl
    · exact fun c first => isBlank_of_digit (all c (List.mem_of_head? first))
    · rintro c ⟨⟩
      rfl
  · intro c last
    rw [List.getLast?_append_of_ne_nil sign ne] at last
    exact isBlank_of_digit (all c (List.mem_of_getLast? last))

theorem countOf?_eq_some_iff {n : Nat} :
    countOf? text.toList = some n ↔ WritesCount text n := by
  constructor
  · intro read
    simp only [countOf?] at read
    split at read
    · rename_i all
      obtain ⟨before, after, split, blank, blank'⟩ := trim_split text.toList
      obtain ⟨sign, parts, signed⟩ := dropPlus_split (trim text.toList)
      obtain ⟨ne, value, fits⟩ := count?_eq_some_iff.mp read
      rw [parts] at split
      exact ⟨before, sign, _, after, split, blank, blank', signed, ne,
        List.all_eq_true.mp all, value, fits⟩
    · cases read
  · rintro ⟨before, sign, digits, after, split, blank, blank', signed, ne, all, value, fits⟩
    have parts : dropPlus (trim text.toList) = digits := by
      rw [split, trim_signed ne signed all blank blank', dropPlus_signed signed all]
    simp only [countOf?, parts]
    rw [if_pos (List.all_eq_true.mpr all)]
    exact count?_eq_some_iff.mpr ⟨ne, value, fits⟩

/-! ## Readers of fields -/

/-- A reader gives what a text stands for, and has one answer to all other texts. -/
structure Reads (read : String → Except FilterError α) (Writes : String → α → Prop)
    (fault : FilterError) : Prop where
  ok_iff : ∀ text a, read text = .ok a ↔ Writes text a
  refuses : ∀ text e, read text = .error e → e = fault

theorem reads_flag : Reads readFlag WritesFlag .notFlag where
  ok_iff text b := by
    unfold readFlag WritesFlag
    split
    · cases b <;> simp
    · cases b <;> simp
    · rename_i notTrue notFalse
      simp only [reduceCtorEq, false_iff, not_or, not_and]
      exact ⟨fun same => (notTrue same).elim, fun same => (notFalse same).elim⟩
  refuses text e := by
    unfold readFlag
    split <;> simp [eq_comm]

theorem reads_count (name : String) : Reads (readCount name) WritesCount (.notCount name) where
  ok_iff text n := by
    rw [← countOf?_eq_some_iff, readCount]
    split <;> simp [*]
  refuses text e := by
    unfold readCount
    split <;> simp [eq_comm]

theorem reads_letter : Reads readLetter WritesLetter .notLetter where
  ok_iff text c := by
    unfold readLetter WritesLetter
    split
    · rename_i d only
      rw [only]
      by_cases letter : d.isAlpha = true
      · rw [if_pos letter]
        constructor
        · rintro ⟨⟩
          exact ⟨rfl, letter⟩
        · rintro ⟨⟨⟩, _⟩
          rfl
      · rw [if_neg letter]
        constructor
        · rintro ⟨⟩
        · rintro ⟨⟨⟩, letter'⟩
          exact absurd letter' letter
    · rename_i several
      constructor
      · rintro ⟨⟩
      · rintro ⟨only, _⟩
        exact absurd only (several c)
  refuses text e := by
    unfold readLetter
    split
    · split <;> simp [eq_comm]
    · simp [eq_comm]

theorem Reads.error_iff {read : String → Except FilterError α} {Writes : String → α → Prop}
    (h : Reads read Writes fault) :
    read text = .error e ↔ e = fault ∧ ¬∃ a, Writes text a := by
  constructor
  · intro refused
    refine ⟨h.refuses text e refused, ?_⟩
    rintro ⟨a, writes⟩
    rw [(h.ok_iff text a).mpr writes] at refused
    cases refused
  · rintro ⟨rfl, none⟩
    cases read' : read text with
    | ok a => exact absurd ⟨a, (h.ok_iff text a).mp read'⟩ none
    | error e => rw [h.refuses text e read']

end Filter

/-! ## Single parameters -/

/-- What the parameter of a name says of a field. -/
def Params.Gives (ps : Params) (name : String) (Writes : String → α → Prop) : Option α → Prop
  | none => ∀ text, (name, text) ∉ ps
  | some a => ∃ text, (name, text) ∈ ps ∧ Writes text a

namespace Filter

theorem readParam_cases (distinct : (ps.map (·.1)).Nodup) (name : String)
    (read : String → Except FilterError α) :
    (readParam ps name read = .ok none ∧ ∀ text, (name, text) ∉ ps) ∨
      ∃ text, (∀ other, (name, other) ∈ ps ↔ other = text) ∧
        readParam ps name read = (read text).map some := by
  unfold readParam
  cases found : ps.get? name with
  | none =>
    refine .inl ⟨rfl, fun text mem => ?_⟩
    rw [(Params.get?_eq_some_iff distinct).mpr mem] at found
    cases found
  | some text =>
    refine .inr ⟨text, fun other => ?_, rfl⟩
    rw [← Params.get?_eq_some_iff distinct, found, Option.some.injEq, eq_comm]

variable {read : String → Except FilterError α} {Writes : String → α → Prop}

theorem readParam_eq_ok_iff (h : Reads read Writes fault) (distinct : (ps.map (·.1)).Nodup)
    {o : Option α} : readParam ps name read = .ok o ↔ ps.Gives name Writes o := by
  rcases readParam_cases distinct name read with ⟨done, absent⟩ | ⟨text, only, done⟩
  · cases o <;> simp [done, Params.Gives, absent]
  · rw [done]
    cases o with
    | none => cases read' : read text <;> simp [Params.Gives, only, Except.map]
    | some a =>
      simp only [Params.Gives, only, exists_eq_left, ← h.ok_iff]
      cases read text <;> simp [Except.map]

theorem readParam_eq_error_iff (h : Reads read Writes fault) (distinct : (ps.map (·.1)).Nodup) :
    readParam ps name read = .error e ↔
      e = fault ∧ ∃ text, (name, text) ∈ ps ∧ ¬∃ a, Writes text a := by
  rcases readParam_cases distinct name read with ⟨done, absent⟩ | ⟨text, only, done⟩
  · simp [done, absent]
  · simp only [done, only, exists_eq_left, ← h.error_iff]
    cases read text <;> simp [Except.map]

/-! ## The parameters in their order -/

inductive FieldKind where
  | flag
  | count
  | letter
  deriving DecidableEq

def kindOf (name : String) : FieldKind :=
  if name = "is_palindrome" then .flag
  else if name = "contains_character" then .letter
  else .count

/-- The texts that are accepted under a name. -/
def IsWellFormed (name text : String) : Prop :=
  match kindOf name with
  | .flag => ∃ b, WritesFlag text b
  | .count => ∃ n, WritesCount text n
  | .letter => ∃ c, WritesLetter text c

def faultOf (name : String) : FilterError :=
  match kindOf name with
  | .flag => .notFlag
  | .count => .notCount name
  | .letter => .notLetter

/-- What is said of a malformed text, after the name of the parameter. -/
def reasonOf (name : String) : String :=
  match kindOf name with
  | .flag => "must be \"true\" or \"false\""
  | .count => "must be a non-negative integer"
  | .letter => "must be a single letter"

theorem message_faultOf (name : String) :
    (faultOf name).message = FilterError.invalid name (reasonOf name) := by
  unfold faultOf reasonOf kindOf
  split_ifs with flag letter
  · rw [flag]
    rfl
  · rw [letter]
    rfl
  · rfl

/-- The check of one parameter, without the value that it gives. -/
def checkParam (ps : Params) (name : String) : Except FilterError Unit :=
  match kindOf name with
  | .flag => checkOf (readParam ps name readFlag)
  | .count => checkOf (readParam ps name (readCount name))
  | .letter => checkOf (readParam ps name readLetter)

theorem checkParam_eq_error_iff (distinct : (ps.map (·.1)).Nodup) :
    checkParam ps name = .error e ↔
      e = faultOf name ∧ ∃ text, (name, text) ∈ ps ∧ ¬IsWellFormed name text := by
  unfold checkParam faultOf IsWellFormed
  cases kindOf name with
  | flag => exact checkOf_eq_error_iff.trans (readParam_eq_error_iff reads_flag distinct)
  | count => exact checkOf_eq_error_iff.trans (readParam_eq_error_iff (reads_count name) distinct)
  | letter => exact checkOf_eq_error_iff.trans (readParam_eq_error_iff reads_letter distinct)

theorem checkParam_eq_ok_iff (distinct : (ps.map (·.1)).Nodup) :
    (∃ u, checkParam ps name = .ok u) ↔ ∀ text, (name, text) ∈ ps → IsWellFormed name text := by
  cases checked : checkParam ps name with
  | ok u =>
    refine iff_of_true ⟨u, rfl⟩ fun text mem => ?_
    by_contra malformed
    rw [(checkParam_eq_error_iff distinct).mpr ⟨rfl, text, mem, malformed⟩] at checked
    cases checked
  | error e =>
    obtain ⟨_, text, mem, malformed⟩ := (checkParam_eq_error_iff distinct).mp checked
    refine iff_of_false ?_ fun all => malformed (all text mem)
    rintro ⟨u, ⟨⟩⟩

/-- Where all names are known, their texts are checked in the order of the names. -/
theorem checkOf_ofParams (known : unknownNames ps = []) :
    checkOf (ofParams ps) = checkOf (paramNames.mapM (checkParam ps)) := by
  rw [ofParams, known]
  refine checkOf_bind rfl fun _ => ?_
  refine checkOf_bind rfl fun _ => ?_
  refine checkOf_bind rfl fun _ => ?_
  refine checkOf_bind rfl fun _ => ?_
  refine checkOf_bind rfl fun _ => ?_
  rfl

theorem ofParams_eq_ok {f : Filter} (known : unknownNames ps = []) (h : ofParams ps = .ok f) :
    readParam ps "is_palindrome" readFlag = .ok f.isPalindrome ∧
    readParam ps "min_length" (readCount "min_length") = .ok f.minLength ∧
    readParam ps "max_length" (readCount "max_length") = .ok f.maxLength ∧
    readParam ps "word_count" (readCount "word_count") = .ok f.wordCount ∧
    readParam ps "contains_character" readLetter = .ok f.containsCharacter := by
  rw [ofParams, known] at h
  obtain ⟨b, flag, h⟩ := bind_eq_ok h
  obtain ⟨low, least, h⟩ := bind_eq_ok h
  obtain ⟨high, most, h⟩ := bind_eq_ok h
  obtain ⟨count, words, h⟩ := bind_eq_ok h
  obtain ⟨c, letter, h⟩ := bind_eq_ok h
  cases h
  exact ⟨flag, least, most, words, letter⟩

/-! ## Unknown names -/

theorem mem_unknownNames_iff :
    name ∈ unknownNames ps ↔ name ∈ ps.map (·.1) ∧ name ∉ paramNames := by
  rw [unknownNames, List.mem_mergeSort, List.mem_filter, Bool.not_eq_true', ← Bool.not_eq_true,
    List.contains_iff_mem]

theorem unknownNames_ascending (distinct : (ps.map (·.1)).Nodup) :
    (unknownNames ps).Pairwise (· < ·) := by
  have sorted : (unknownNames ps).Pairwise fun a b => decide (a ≤ b) = true := by
    refine List.pairwise_mergeSort (fun a b c ab bc => ?_) (fun a b => ?_) _
    · exact decide_eq_true (String.le_trans (of_decide_eq_true ab) (of_decide_eq_true bc))
    · rw [Bool.or_eq_true, decide_eq_true_iff, decide_eq_true_iff]
      exact String.le_total a b
  have apart : (unknownNames ps).Nodup :=
    (List.mergeSort_perm _ _).nodup_iff.mpr (distinct.filter _)
  refine (sorted.and apart).imp fun {a b} h => String.not_le.mp fun ge => ?_
  exact h.2 (String.le_antisymm (of_decide_eq_true h.1) ge)

theorem unknownNames_unique {names : List String} (distinct : (ps.map (·.1)).Nodup)
    (ascending : names.Pairwise (· < ·))
    (exactly : ∀ name, name ∈ names ↔ name ∈ ps.map (·.1) ∧ name ∉ paramNames) :
    unknownNames ps = names :=
  (unknownNames_ascending distinct).eq_of_mem_iff ascending fun name =>
    mem_unknownNames_iff.trans (exactly name).symm

theorem unknownNames_eq_nil_iff :
    unknownNames ps = [] ↔ ∀ name ∈ ps.map (·.1), name ∈ paramNames := by
  refine ⟨fun none name mem => ?_, unknownNames_eq_nil⟩
  by_contra unknown
  have listed := mem_unknownNames_iff.mpr ⟨mem, unknown⟩
  rw [none] at listed
  cases listed

theorem ofParams_of_unknown (h : unknownNames ps ≠ []) :
    ofParams ps = .error (.unknownNames (unknownNames ps)) := by
  rw [ofParams]
  split
  · rename_i none
    exact absurd none h
  · rfl

end Filter

/-! ## All parameters -/

open TextCatalog.Filter

structure Params.GivesFilter (ps : Params) (f : Filter) : Prop where
  isPalindrome : ps.Gives "is_palindrome" WritesFlag f.isPalindrome
  minLength : ps.Gives "min_length" WritesCount f.minLength
  maxLength : ps.Gives "max_length" WritesCount f.maxLength
  wordCount : ps.Gives "word_count" WritesCount f.wordCount
  containsCharacter : ps.Gives "contains_character" WritesLetter f.containsCharacter

inductive Params.Refuses (ps : Params) : FilterError → Prop where
  | unknown {names : List String} (some : names ≠ []) (ascending : names.Pairwise (· < ·))
      (exactly : ∀ name, name ∈ names ↔ name ∈ ps.map (·.1) ∧ name ∉ paramNames) :
    Refuses ps (.unknownNames names)
  | malformed {before after : List String} {name text : String}
      (known : ∀ name ∈ ps.map (·.1), name ∈ paramNames)
      (order : paramNames = before ++ name :: after)
      (fine : ∀ b ∈ before, ∀ text, (b, text) ∈ ps → IsWellFormed b text)
      (mem : (name, text) ∈ ps) (bad : ¬IsWellFormed name text) :
    Refuses ps (faultOf name)

/-- What is made of parameters, whose names stand in any order. -/
structure Params.Validated (ps : Params) : Prop where
  succeeds : (∃ f, ofParams ps = .ok f) ↔
    ∀ name text, (name, text) ∈ ps → name ∈ paramNames ∧ IsWellFormed name text
  gives : ∀ f, ofParams ps = .ok f → ps.GivesFilter f
  refuses : ∀ e, ofParams ps = .error e ↔ ps.Refuses e
  message : ∀ name, (faultOf name).message = FilterError.invalid name (reasonOf name)

namespace Filter

theorem mem_names_iff : name ∈ ps.map (·.1) ↔ ∃ text, (name, text) ∈ ps := by
  simp

theorem ofParams_eq_error_iff (known : unknownNames ps = []) (distinct : (ps.map (·.1)).Nodup) :
    ofParams ps = .error e ↔ ∃ before name after, paramNames = before ++ name :: after ∧
      (∀ b ∈ before, ∀ text, (b, text) ∈ ps → IsWellFormed b text) ∧
      e = faultOf name ∧ ∃ text, (name, text) ∈ ps ∧ ¬IsWellFormed name text := by
  rw [← checkOf_eq_error_iff, checkOf_ofParams known, checkOf_eq_error_iff, mapM_eq_error_iff]
  simp only [checkParam_eq_ok_iff distinct, checkParam_eq_error_iff distinct]

theorem exists_ofParams_iff (known : unknownNames ps = []) (distinct : (ps.map (·.1)).Nodup) :
    (∃ f, ofParams ps = .ok f) ↔
      ∀ name ∈ paramNames, ∀ text, (name, text) ∈ ps → IsWellFormed name text := by
  rw [← checkOf_eq_ok_iff, checkOf_ofParams known, checkOf_eq_ok_iff, exists_mapM_eq_ok_iff]
  simp only [checkParam_eq_ok_iff distinct]

theorem refuses_iff (distinct : (ps.map (·.1)).Nodup) : ofParams ps = .error e ↔ ps.Refuses e := by
  by_cases known : unknownNames ps = []
  · rw [ofParams_eq_error_iff known distinct]
    have all := unknownNames_eq_nil_iff.mp known
    constructor
    · rintro ⟨before, name, after, order, fine, rfl, text, mem, bad⟩
      exact .malformed all order fine mem bad
    · intro refused
      cases refused with
      | unknown some ascending exactly =>
        exact absurd (unknownNames_unique distinct ascending exactly ▸ known) some
      | malformed _ order fine mem bad => exact ⟨_, _, _, order, fine, rfl, _, mem, bad⟩
  · rw [ofParams_of_unknown known]
    constructor
    · rintro ⟨⟩
      exact .unknown known (unknownNames_ascending distinct) fun _ => mem_unknownNames_iff
    · intro refused
      cases refused with
      | unknown _ ascending exactly => rw [unknownNames_unique distinct ascending exactly]
      | malformed all => exact absurd (unknownNames_eq_nil all) known

theorem validated (distinct : (ps.map (·.1)).Nodup) : ps.Validated where
  succeeds := by
    by_cases known : unknownNames ps = []
    · have all := unknownNames_eq_nil_iff.mp known
      rw [exists_ofParams_iff known distinct]
      constructor
      · intro fine name text mem
        have named := all name (mem_names_iff.mpr ⟨text, mem⟩)
        exact ⟨named, fine name named text mem⟩
      · intro fine name _ text mem
        exact (fine name text mem).2
    · rw [ofParams_of_unknown known]
      refine iff_of_false ?_ fun fine => known (unknownNames_eq_nil fun name mem => ?_)
      · rintro ⟨f, ⟨⟩⟩
      · obtain ⟨text, mem⟩ := mem_names_iff.mp mem
        exact (fine name text mem).1
  gives f made := by
    have known : unknownNames ps = [] := by
      by_contra unknown
      rw [ofParams_of_unknown unknown] at made
      cases made
    obtain ⟨flag, least, most, words, letter⟩ := ofParams_eq_ok known made
    exact ⟨(readParam_eq_ok_iff reads_flag distinct).mp flag,
      (readParam_eq_ok_iff (reads_count _) distinct).mp least,
      (readParam_eq_ok_iff (reads_count _) distinct).mp most,
      (readParam_eq_ok_iff (reads_count _) distinct).mp words,
      (readParam_eq_ok_iff reads_letter distinct).mp letter⟩
  refuses _ := refuses_iff distinct
  message := message_faultOf

/--
Parameters are accepted exactly if all names are known and all texts well-formed, and give the
fields that they name. A refusal lists all unknown names, or else says which parameter is the first
one that is malformed. A filter that is written as parameters is read again in any order of them.
-/
theorem ofParams_exact {ps : Params} (distinct : (ps.map (·.1)).Nodup) :
    ps.Validated ∧ ∀ f : Filter, f.IsCounted → (∀ c ∈ f.containsCharacter, c.isAlpha = true) →
      ps.Perm f.toParams → ofParams ps = .ok f :=
  ⟨validated distinct, fun _ counted letter written => ofParams_of_perm written counted letter⟩

/-- The count that is checked first stands last, and a filter is read back to front. -/
theorem ofParams_exact_disordered :
    let ps : Params :=
      [("word_count", "x"), ("min_length", "\u00a0+007 "), ("max_length", "18446744073709551616")]
    let f : Filter := { isPalindrome := some true, containsCharacter := some 'Z' }
    ps.Validated ∧ ofParams ps = .error (.notCount "max_length") ∧
      ofParams f.toParams.reverse = .ok f := by
  intro ps f
  have distinct : (ps.map (·.1)).Nodup := by decide
  have known : unknownNames ps = [] := unknownNames_eq_nil (by decide)
  refine ⟨(ofParams_exact distinct).1, ?_, ?_⟩
  · rw [ofParams, known]
    rfl
  · have distinct' : (f.toParams.reverse.map (·.1)).Nodup := by decide
    refine (ofParams_exact distinct').2 f ?_ ?_ (List.reverse_perm _)
    · constructor <;> (intro n mem; cases mem)
    · rintro c ⟨⟩
      decide

end Filter
end TextCatalog
