import Mathlib.Algebra.GroupWithZero.Nat
import Mathlib.Data.List.Sort
import TextCatalog.Proofs.Record.FrequencyMap
import TextCatalog.Proofs.Record.Measures

/-!
# TextCatalog.Proofs.Record.Consistency

How the properties of one text fit together.

* `FrequencyMap.get?_tally` — a tally holds the number of occurrences of each character.
* `FrequencyMap.total_tally` — and its counts add up to the length of the text.
* `length_distinct_perm` — what occurs in two texts alike is as many different characters in both.
* `Properties.Consistent`, `Properties.consistent_ofText` — how the counts of a text bear on each
  other, and which of them are the same when the text is rearranged.
-/

namespace TextCatalog

open Text

variable {c : Char} {s t : List Char}

namespace FrequencyMap

variable {m n : FrequencyMap} {name : String}

/-! ## Looking up in a tally -/

def occurrences (name : String) (s : List Char) : Nat := s.countP fun c => c.toString == name

theorem occurrences_cons (name : String) (c : Char) (s : List Char) :
    occurrences name (c :: s) = occurrences name s + if c.toString = name then 1 else 0 := by
  simp [occurrences, List.countP_cons]

theorem occurrences_toString (c : Char) (s : List Char) :
    occurrences c.toString s = s.count c := by
  refine List.countP_congr fun d _ => ?_
  rw [beq_iff_eq, beq_iff_eq]
  exact String.singleton_inj

theorem occurrences_eq_zero_iff : occurrences name s = 0 ↔ ¬∃ c ∈ s, c.toString = name := by
  simp [occurrences]

theorem count_addChar (m : FrequencyMap) (c : Char) (name : String) :
    (m.addChar c).count name = m.count name + if c.toString = name then 1 else 0 := by
  rw [count, get?_addChar]
  by_cases same : c.toString = name
  · subst same
    rw [if_pos rfl, if_pos rfl]
    rfl
  · have other : ¬name = c.toString := fun h => same h.symm
    rw [if_neg other, if_neg same]
    rfl

/-- A character that does not occur leaves the entry of its name as it is. -/
theorem get?_foldl (s : List Char) (m : FrequencyMap) (name : String) :
    (s.foldl addChar m).get? name =
      if occurrences name s = 0 then m.get? name
      else some (m.count name + occurrences name s) := by
  induction s generalizing m with
  | nil => rfl
  | cons c s ih =>
    rw [List.foldl_cons, ih, count_addChar, occurrences_cons]
    by_cases same : c.toString = name
    · rw [get?_addChar, if_pos same.symm, if_pos same, if_neg (Nat.succ_ne_zero _)]
      split
      · rename_i absent
        rw [absent, same]
      · rw [Nat.add_assoc, Nat.add_comm 1]
    · have other : ¬name = c.toString := fun h => same h.symm
      rw [get?_addChar, if_neg other, if_neg same, Nat.add_zero, Nat.add_zero]

theorem get?_tally (s : List Char) (name : String) :
    (tally s).get? name =
      if occurrences name s = 0 then none else some (occurrences name s) := by
  rw [tally, get?_foldl]
  show (if _ then none else some (0 + _)) = _
  rw [Nat.zero_add]

theorem mem_names_iff : name ∈ m.names ↔ ∃ n, m.get? name = some n := by
  simp [names, ← mem_entries_iff]

theorem mem_names_tally_iff : name ∈ (tally s).names ↔ ∃ c ∈ s, c.toString = name := by
  rw [mem_names_iff, get?_tally, ← not_iff_not, ← occurrences_eq_zero_iff]
  split
  · rename_i absent
    simp [absent]
  · rename_i present
    simp [present]

theorem names_nodup (m : FrequencyMap) : m.names.Nodup := by
  refine List.pairwise_map.mpr (m.ascending.imp fun {a b} lt same => ?_)
  exact String.lt_irrefl b.1 (same ▸ lt)

/-! ## The same map -/

theorem ext_get? (h : ∀ name, m.get? name = n.get? name) : m = n := by
  refine entries_inj (m.ascending.eq_of_mem_iff n.ascending fun e => ?_)
  rw [mem_entries_iff, mem_entries_iff, h]

theorem tally_perm (h : s.Perm t) : tally s = tally t := by
  refine ext_get? fun name => ?_
  have same : occurrences name s = occurrences name t := h.countP_eq _
  rw [get?_tally, get?_tally, same]

/-! ## The sum of the counts -/

def total (m : FrequencyMap) : Nat := (m.entries.map (·.2)).sum

/-- A new count stands in the place of the one that the name had. -/
theorem sum_put {es : List (String × Nat)} (h : es.Pairwise fun a b => a.1 < b.1) (n : Nat) :
    ((put name n es).map (·.2)).sum + ((es.find? fun e => e.1 == name).map (·.2)).getD 0 =
      (es.map (·.2)).sum + n := by
  induction es with
  | nil => simp [put]
  | cons e es ih =>
    obtain ⟨below, tail⟩ := List.pairwise_cons.mp h
    rw [put]
    by_cases before : name < e.1
    · have absent : ((e :: es).find? fun e => e.1 == name) = none := by
        refine List.find?_eq_none.mpr fun a mem same => ?_
        rcases List.mem_cons.mp mem with rfl | mem
        · exact String.lt_irrefl _ (beq_iff_eq.mp same ▸ before)
        · exact String.lt_irrefl _ (beq_iff_eq.mp same ▸ String.lt_trans before (below a mem))
      rw [if_pos before, absent]
      simp only [List.map_cons, List.sum_cons, Option.map_none, Option.getD_none]
      omega
    · by_cases same : name = e.1
      · rw [if_neg before, if_pos same, List.find?_cons_of_pos (by simp [same])]
        simp only [List.map_cons, List.sum_cons, Option.map_some, Option.getD_some]
        omega
      · have later := ih tail
        have other : ¬e.1 = name := fun h => same h.symm
        rw [if_neg before, if_neg same, List.find?_cons_of_neg (by simp [other])]
        simp only [List.map_cons, List.sum_cons]
        omega

theorem total_addChar (m : FrequencyMap) (c : Char) : (m.addChar c).total = m.total + 1 := by
  have replaced : (m.addChar c).total + m.count c.toString =
      m.total + (m.count c.toString + 1) :=
    sum_put m.ascending _
  omega

theorem total_foldl (s : List Char) (m : FrequencyMap) :
    (s.foldl addChar m).total = m.total + s.length := by
  induction s generalizing m with
  | nil => rfl
  | cons c s ih =>
    rw [List.foldl_cons, ih, total_addChar, List.length_cons]
    omega

theorem total_tally (s : List Char) : (tally s).total = s.length :=
  (total_foldl s empty).trans (Nat.zero_add _)

end FrequencyMap

/-! ## Different characters -/

theorem mem_distinct : c ∈ distinct s ↔ c ∈ s := by
  induction s with
  | nil => rfl
  | cons d s ih =>
    rw [distinct]
    split
    · rename_i again
      rw [ih, List.mem_cons]
      refine ⟨.inr, ?_⟩
      rintro (rfl | mem)
      · exact again
      · exact mem
    · rw [List.mem_cons, List.mem_cons, ih]

theorem distinct_nodup (s : List Char) : (distinct s).Nodup := by
  induction s with
  | nil => exact List.nodup_nil
  | cons d s ih =>
    rw [distinct]
    split
    · exact ih
    · rename_i new
      exact List.nodup_cons.mpr ⟨fun mem => new (mem_distinct.mp mem), ih⟩

theorem length_distinct_perm (h : s.Perm t) : (distinct s).length = (distinct t).length := by
  have same : (distinct s).Perm (distinct t) := by
    refine (List.perm_ext_iff_of_nodup (distinct_nodup s) (distinct_nodup t)).mpr fun c => ?_
    rw [mem_distinct, mem_distinct, h.mem_iff]
  exact same.length_eq

theorem inked_eq_nil_iff : inked s = [] ↔ ∀ c ∈ s, isBlank c = true := by
  simp [inked]

theorem distinct_eq_nil_iff : distinct s = [] ↔ s = [] := by
  simp only [List.eq_nil_iff_forall_not_mem, mem_distinct]

theorem words_eq_nil_iff : words s = [] ↔ ∀ c ∈ s, isBlank c = true := by
  refine ⟨fun none c mem => ?_, words_of_blanks⟩
  induction s with
  | nil => cases mem
  | cons d s ih =>
    cases ink : isBlank d with
    | false => exact absurd none (words_ne_nil ink s)
    | true =>
      rcases List.mem_cons.mp mem with rfl | mem
      · exact ink
      · exact ih (words_blank ink s ▸ none) mem

/-! ## The properties of a text -/

theorem names_frequencies {name : String} :
    name ∈ (frequencies s).names ↔ ∃ c ∈ s, c ≠ ' ' ∧ c.toString = name := by
  rw [frequencies, FrequencyMap.mem_names_tally_iff]
  simp [and_assoc]

theorem get?_frequencies (mem : c ∈ s) (other : c ≠ ' ') :
    (frequencies s).get? c.toString = some (s.count c) := by
  have kept : (s.filter fun c => c != ' ').count c = s.count c :=
    List.count_filter (by simpa using other)
  have occurs : ¬s.count c = 0 := fun none => List.count_eq_zero.mp none mem
  rw [frequencies, FrequencyMap.get?_tally, FrequencyMap.occurrences_toString, kept, if_neg occurs]

theorem total_frequencies (s : List Char) : (frequencies s).total + s.count ' ' = s.length := by
  rw [frequencies, FrequencyMap.total_tally, ← List.countP_eq_length_filter,
    List.length_eq_countP_add_countP (fun c => c != ' ')]
  congr 1
  exact List.countP_congr fun c _ => by simp

/-- Blank characters that are no spaces have entries of their own. -/
def isInkName (name : String) : Bool := !name.toList.all isBlank

theorem length_inkNames (s : List Char) :
    ((frequencies s).names.filter isInkName).length = (distinct (inked s)).length := by
  have named : ((distinct (inked s)).map Char.toString).Nodup :=
    (distinct_nodup _).map fun _ _ => String.singleton_inj.mp
  have same : ((frequencies s).names.filter isInkName).Perm
      ((distinct (inked s)).map Char.toString) := by
    refine (List.perm_ext_iff_of_nodup ((FrequencyMap.names_nodup _).filter _) named).mpr ?_
    intro name
    rw [List.mem_filter, names_frequencies, List.mem_map]
    constructor
    · rintro ⟨⟨c, mem, _, rfl⟩, ink⟩
      refine ⟨c, mem_distinct.mpr (List.mem_filter.mpr ⟨mem, ?_⟩), rfl⟩
      simpa [isInkName] using ink
    · rintro ⟨c, mem, rfl⟩
      obtain ⟨mem, ink⟩ := List.mem_filter.mp (mem_distinct.mp mem)
      refine ⟨⟨c, mem, ?_, rfl⟩, by simpa [isInkName] using ink⟩
      rintro rfl
      cases ink
  rw [same.length_eq, List.length_map]

namespace Properties

/-- What the properties of a text have to do with its characters and with each other. -/
structure Consistent (s : List Char) (p : Properties) : Prop where
  names : ∀ name, name ∈ p.frequencies.names ↔ ∃ c ∈ s, c ≠ ' ' ∧ c.toString = name
  counts : ∀ c ∈ s, c ≠ ' ' → p.frequencies.get? c.toString = some (s.count c)
  length : p.frequencies.total + s.count ' ' = p.length
  uniqueCharacters : p.uniqueCharacters = (p.frequencies.names.filter isInkName).length
  wordless : p.wordCount = 0 ↔ p.uniqueCharacters = 0
  blank : p.uniqueCharacters = 0 ↔ ∀ c ∈ s, isBlank c = true
  wordCount : 2 * p.wordCount ≤ p.length + 1
  rearranged : ∀ text : String, text.toList.Perm s → (ofText text).length = p.length ∧
    (ofText text).uniqueCharacters = p.uniqueCharacters ∧
    (ofText text).frequencies = p.frequencies

theorem uniqueCharacters_ofText_iff (text : String) :
    (ofText text).uniqueCharacters = 0 ↔ ∀ c ∈ text.toList, isBlank c = true := by
  show (distinct (inked text.toList)).length = 0 ↔ _
  rw [List.length_eq_zero_iff, distinct_eq_nil_iff, inked_eq_nil_iff]

theorem wordCount_ofText_iff (text : String) :
    (ofText text).wordCount = 0 ↔ ∀ c ∈ text.toList, isBlank c = true := by
  show (words text.toList).length = 0 ↔ _
  rw [List.length_eq_zero_iff, words_eq_nil_iff]

theorem consistent_ofText (text : String) : Consistent text.toList (ofText text) where
  names _ := names_frequencies
  counts _ := get?_frequencies
  length := total_frequencies _
  uniqueCharacters := (length_inkNames _).symm
  wordless := (wordCount_ofText_iff text).trans (uniqueCharacters_ofText_iff text).symm
  blank := uniqueCharacters_ofText_iff text
  wordCount := two_mul_length_words_le _
  rearranged _ same :=
    ⟨same.length_eq, length_distinct_perm (same.filter _), FrequencyMap.tally_perm (same.filter _)⟩

end Properties
end TextCatalog
