import TextCatalog.Proofs.Table.Row
import TextCatalog.Table.Basic

/-!
# TextCatalog.Proofs.Table.Basic

A table that holds given records, one row for each, answers from the records.

* `Table.Holds` — the rows are those of the records.
* `Holds.has`, `Holds.find?`, `Holds.select`, `Holds.ids`, `Holds.palindromeSum` — its answers.
* `Holds.insert?`, `Holds.erase` — its changes. A value is taken only where its id is, since the
  id is computed from the value.
-/

namespace TextCatalog
namespace Table

structure Holds (t : Table) (rs : List Record) : Prop where
  rows : t.rows = rs.map Row.ofRecord
  fits : ∀ r ∈ rs, r.FitsTable

theorem holds_empty : empty.Holds [] := ⟨rfl, by intro r mem; cases mem⟩

variable {t : Table} {rs : List Record}

/-! ## Looking up -/

theorem Holds.has (h : t.Holds rs) (id : String) : t.has id = rs.any fun r => r.id == id := by
  rw [Table.has, h.rows, List.any_map]
  rfl

theorem Holds.find? (h : t.Holds rs) (id : String) :
    t.find? id = (rs.find? fun r => r.id == id).map Row.ofRecord := by
  rw [Table.find?, h.rows, List.find?_map]
  rfl

theorem Holds.hasValue (h : t.Holds rs) {r : Record} (hr : r.FitsTable)
    (absent : t.has r.id = false) : t.hasValue r.value = false := by
  rw [Table.hasValue, h.rows, List.any_eq_false]
  intro row found same
  obtain ⟨a, mem, rfl⟩ := List.mem_map.mp found
  have value : a.value = r.value := beq_iff_eq.mp same
  have id : a.id = r.id := by rw [(h.fits a mem).id_eq, hr.id_eq, value]
  rw [h.has, List.any_eq_false] at absent
  exact absent a mem (beq_iff_eq.mpr id)

/-! ## Changes -/

theorem Holds.insert? (h : t.Holds rs) {r : Record} (hr : r.FitsTable)
    (absent : t.has r.id = false) :
    ∃ t', t.insert? (Row.ofRecord r) = some t' ∧ t'.Holds (r :: rs) := by
  refine ⟨_, dif_pos ⟨absent, h.hasValue hr absent⟩, ?_, ?_⟩
  · show Row.ofRecord r :: t.rows = _
    rw [h.rows]
    rfl
  · intro a mem
    rcases List.mem_cons.mp mem with rfl | mem
    · exact hr
    · exact h.fits a mem

theorem Holds.erase (h : t.Holds rs) (id : String) :
    (t.erase id).Holds (rs.filter fun r => r.id != id) := by
  constructor
  · show t.rows.filter _ = _
    rw [h.rows, List.filter_map]
    rfl
  · intro r mem
    exact h.fits r (List.mem_filter.mp mem).1

/-! ## Selections -/

theorem Holds.select (h : t.Holds rs) (f : Filter) :
    t.select f = ((rs.filter f.accepts).mergeSort Memory.inOrder).map Row.ofRecord := by
  have selected : rs.filter (Row.isSelected f ∘ Row.ofRecord) = rs.filter f.accepts :=
    List.filter_congr fun r mem => Row.isSelected_ofRecord (h.fits r mem) f
  rw [Table.select, h.rows, List.filter_map, selected]
  refine (List.map_mergeSort fun a ha b hb => ?_).symm
  exact (Row.inOrder_ofRecord (h.fits a (List.mem_filter.mp ha).1)
    (h.fits b (List.mem_filter.mp hb).1)).symm

theorem Holds.mapM_select (h : t.Holds rs) (f : Filter) :
    (t.select f).mapM Row.toRecord = .ok ((rs.filter f.accepts).mergeSort Memory.inOrder) := by
  rw [h.select]
  refine mapM_map_pure (m := Except TableError) fun r mem => ?_
  have kept := List.mem_filter.mp (List.mem_mergeSort.mp mem)
  exact Row.toRecord_ofRecord (h.fits r kept.1)

theorem Holds.ids (h : t.Holds rs) : (rs.map (·.id)).Perm t.ids := by
  have same : rs.map (·.id) = t.rows.map (·.id) := by
    rw [h.rows, List.map_map]
    rfl
  rw [same, Table.ids]
  exact ((List.mergeSort_perm t.rows Row.inOrder).map _).symm

/-! ## The sum of the flags -/

theorem addColumn_eq (m n : Nat) : addColumn (m : Int) (n : Int) =
    if m + n ≤ columnMax then .ok ((m + n : Nat) : Int) else .error .integerOverflow := by
  have low : columnMin ≤ (m : Int) + n := by unfold columnMin; omega
  have high : (m : Int) + n ≤ columnMax ↔ m + n ≤ columnMax := by omega
  simp only [addColumn, low, high, true_and]
  rfl

/-- Flags add up to the number of those that are set, as long as it fits. -/
theorem foldlM_addColumn {flags : List Int} (h : ∀ x ∈ flags, x = 0 ∨ x = 1) {n : Nat}
    (hn : n ≤ columnMax) : flags.foldlM addColumn (n : Int) =
      if n + flags.count 1 ≤ columnMax then .ok ((n + flags.count 1 : Nat) : Int)
      else .error .integerOverflow := by
  induction flags generalizing n with
  | nil =>
    rw [List.count_nil, Nat.add_zero, if_pos hn]
    rfl
  | cons x flags ih =>
    have tail := fun y mem => h y (List.mem_cons_of_mem x mem)
    rcases h x List.mem_cons_self with rfl | rfl
    · have added := addColumn_eq n 0
      rw [Nat.add_zero, if_pos hn] at added
      rw [List.foldlM_cons, List.count_cons_of_ne (by decide)]
      exact (congrArg (· >>= _) added).trans (ih tail hn)
    · have added := addColumn_eq n 1
      rw [List.foldlM_cons, List.count_cons_self]
      by_cases fits : n + 1 ≤ columnMax
      · rw [if_pos fits] at added
        rw [show n + (flags.count 1 + 1) = n + 1 + flags.count 1 by omega]
        exact (congrArg (· >>= _) added).trans (ih tail fits)
      · rw [if_neg fits] at added
        rw [if_neg (by omega)]
        exact congrArg (· >>= _) added

theorem Holds.palindromeSum (h : t.Holds rs) : t.palindromeSum =
    if (rs.filter fun r => r.properties.isPalindrome).length ≤ columnMax then
      .ok ((rs.filter fun r => r.properties.isPalindrome).length : Int)
    else .error .integerOverflow := by
  have flags : t.rows.map (·.isPalindrome) =
      rs.map fun r => columnOfFlag r.properties.isPalindrome := by
    rw [h.rows, List.map_map]
    rfl
  have sorted := List.mergeSort_perm (t.rows.map (·.isPalindrome)) fun a b => decide (a ≤ b)
  have zeroOrOne : ∀ x ∈ (t.rows.map (·.isPalindrome)).mergeSort fun a b => decide (a ≤ b),
      x = 0 ∨ x = 1 := by
    intro x mem
    rw [flags, List.mem_mergeSort] at mem
    obtain ⟨r, _, rfl⟩ := List.mem_map.mp mem
    cases r.properties.isPalindrome
    · exact .inl rfl
    · exact .inr rfl
  have count : ((t.rows.map (·.isPalindrome)).mergeSort fun a b => decide (a ≤ b)).count 1 =
      (rs.filter fun r => r.properties.isPalindrome).length := by
    rw [sorted.count_eq, flags, List.count, List.countP_map, List.countP_eq_length_filter]
    refine congrArg List.length (List.filter_congr fun r _ => ?_)
    show (columnOfFlag r.properties.isPalindrome == 1) = _
    cases r.properties.isPalindrome <;> rfl
  have sum := foldlM_addColumn zeroOrOne (Nat.zero_le columnMax)
  rw [count, Nat.zero_add] at sum
  exact sum

end Table
end TextCatalog
