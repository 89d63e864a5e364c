import Mathlib.Data.List.Forall2
import TextCatalog.Proofs.Table.Basic
import TextCatalog.Table.Database

/-!
# TextCatalog.Proofs.Store.Agreement

A store in memory and a store in a table answer alike, however long they are used and however
often the table is closed and opened again.

* `SameAnswer`, `Agree` — the same answer, and what a table may answer in its place.
* `Mirrors` — the table holds the records of the memory.
* `step_mirrors` — one operation: the answers agree and the table still mirrors the memory.
* `run_agree` — any number of operations on stores that start empty.
-/

namespace TextCatalog
namespace Store

/-- Ids may come in any order. -/
inductive SameAnswer : Except StoreError Outcome → Except StoreError Outcome → Prop where
  | same (a : Except StoreError Outcome) : SameAnswer a a
  | ids {as bs : List String} (h : as.Perm bs) : SameAnswer (.ok (.ids as)) (.ok (.ids bs))

/-- A table adds flags in a column, so that it cannot count more palindromes than a column can. -/
inductive Agree : Except StoreError Outcome → Except StoreError Outcome → Prop where
  | same {a b : Except StoreError Outcome} (h : SameAnswer a b) : Agree a b
  | overflow {s : Stats} (h : columnMax < s.palindromes) :
    Agree (.ok (.stats s)) (.error EngineFault.integerOverflow.toStoreError)

theorem Agree.refl (a : Except StoreError Outcome) : Agree a a := .same (.same a)

structure Mirrors (m : Memory) (d : Database) : Prop where
  versions : d.versions = Database.fresh.versions
  table : ∃ t, d.strings = some t ∧ t.Holds m.records

theorem mirrors_fresh : Mirrors Memory.empty Database.fresh :=
  ⟨rfl, Table.empty, rfl, Table.holds_empty⟩

variable {m : Memory} {d : Database}

/-! ## One operation on each side -/

theorem Mirrors.withTable (h : Mirrors m d) {m' : Memory} {t : Table} (ht : t.Holds m'.records) :
    Mirrors m' (d.withTable t) :=
  ⟨h.versions, t, rfl, ht⟩

/-- Where the migrations are applied already, they change nothing. -/
theorem migrate_applied (h : d.versions = Database.fresh.versions) : d.migrate = .ok d := by
  obtain ⟨versions, strings⟩ := d
  obtain rfl : versions = Database.fresh.versions := h
  rfl

theorem table_eq {t : Table} (h : d.strings = some t) : d.table = .ok t := by
  rw [Database.table, h]

theorem tableForRecords_eq {t : Table} (h : d.strings = some t) : d.tableForRecords = .ok t := by
  rw [Database.tableForRecords, table_eq h]
  rfl

theorem Mirrors.put (h : Mirrors m d) {r : Record} (hr : r.FitsTable) :
    (m.has r.id = true ∧ m.put r = .error (.alreadyExists r.id) ∧
        d.put r = .error (.alreadyExists r.id)) ∨
      ∃ m' d', m.put r = .ok m' ∧ d.put r = .ok d' ∧ Mirrors m' d' := by
  obtain ⟨t, strings, holds⟩ := h.table
  have has : t.has r.id = m.has r.id := holds.has r.id
  cases taken : m.has r.id with
  | true =>
    refine .inl ⟨rfl, ?_, ?_⟩
    · rw [Memory.put, dif_neg (by rw [taken]; decide)]
    · simp only [Database.put, tableForRecords_eq strings, bind, Except.bind, has, taken]
      rfl
  | false =>
    obtain ⟨t', inserted, holds'⟩ := holds.insert? hr (has.trans taken)
    refine .inr ⟨_, d.withTable t', dif_pos taken, ?_, h.withTable holds'⟩
    simp only [Database.put, tableForRecords_eq strings, bind, Except.bind, has, taken, inserted]
    rfl

theorem Mirrors.get (h : Mirrors m d) (id : String) : d.get id = .ok (m.find? id) := by
  obtain ⟨t, strings, holds⟩ := h.table
  simp only [Database.get, tableForRecords_eq strings, bind, Except.bind, holds.find?]
  show _ = Except.ok (m.records.find? fun r => r.id == id)
  cases found : m.records.find? fun r => r.id == id with
  | none => rfl
  | some r =>
    have record := Row.toRecord_ofRecord (holds.fits r (List.mem_of_find?_eq_some found))
    simp only [Option.map_some, record]
    rfl

theorem Mirrors.has (h : Mirrors m d) (id : String) : d.has id = .ok (m.has id) := by
  obtain ⟨t, strings, holds⟩ := h.table
  simp only [Database.has, tableForRecords_eq strings, bind, Except.bind, holds.has]
  rfl

theorem Mirrors.delete (h : Mirrors m d) (id : String) :
    ∃ d', d.delete id = .ok (m.has id, d') ∧ Mirrors (m.erase id) d' := by
  obtain ⟨t, strings, holds⟩ := h.table
  refine ⟨d.withTable (t.erase id), ?_, h.withTable (holds.erase id)⟩
  simp only [Database.delete, table_eq strings, bind, Except.bind, holds.has]
  rfl

theorem Mirrors.ids (h : Mirrors m d) :
    ∃ ids, d.ids = .ok ids ∧ (m.records.map (·.id)).Perm ids := by
  obtain ⟨t, strings, holds⟩ := h.table
  refine ⟨t.ids, ?_, holds.ids⟩
  simp only [Database.ids, table_eq strings, bind, Except.bind]
  rfl

theorem Mirrors.count (h : Mirrors m d) : d.count = .ok m.records.length := by
  obtain ⟨t, strings, holds⟩ := h.table
  simp only [Database.count, table_eq strings, bind, Except.bind, holds.rows, List.length_map]
  rfl

theorem Mirrors.clear (h : Mirrors m d) : ∃ d', d.clear = .ok d' ∧ Mirrors Memory.empty d' := by
  obtain ⟨t, strings, holds⟩ := h.table
  refine ⟨d.withTable Table.empty, ?_, h.withTable Table.holds_empty⟩
  simp only [Database.clear, table_eq strings, bind, Except.bind]
  rfl

theorem Mirrors.query (h : Mirrors m d) (f : Filter) : d.query f = .ok (m.query f) := by
  obtain ⟨t, strings, holds⟩ := h.table
  simp only [Database.query, tableForRecords_eq strings, bind, Except.bind]
  exact holds.mapM_select f

theorem Mirrors.stats (h : Mirrors m d) :
    (m.stats.palindromes ≤ columnMax ∧ d.stats = .ok m.stats) ∨
      (columnMax < m.stats.palindromes ∧ d.stats = .error .integerOverflow) := by
  obtain ⟨t, strings, holds⟩ := h.table
  have sum : t.palindromeSum = if m.stats.palindromes ≤ columnMax then
      .ok (m.stats.palindromes : Int) else .error .integerOverflow := holds.palindromeSum
  by_cases fits : m.stats.palindromes ≤ columnMax
  · rw [if_pos fits] at sum
    have unsigned : ((m.stats.palindromes : Int) % (Text.counts : Int)).toNat =
        m.stats.palindromes := by
      have : columnMax < Text.counts := by decide
      rw [Int.emod_eq_of_lt (by omega) (by omega)]
      rfl
    refine .inl ⟨fits, ?_⟩
    simp only [Database.stats, table_eq strings, bind, Except.bind, sum, holds.rows,
      List.length_map]
    exact congrArg (fun n => Except.ok (Stats.mk m.records.length n)) unsigned
  · rw [if_neg fits] at sum
    refine .inr ⟨by omega, ?_⟩
    simp only [Database.stats, table_eq strings, bind, Except.bind, sum]

/-! ## Steps and runs -/

def Operation.Fits : Operation → Prop
  | .put r => r.FitsTable
  | _ => True

theorem step_mirrors (h : Mirrors m d) {op : Operation} (fits : op.Fits) :
    Agree (step m op).1 (step d op).1 ∧ Mirrors (step m op).2 (step d op).2 := by
  cases op with
  | put r =>
    rcases h.put fits with ⟨_, hm, hd⟩ | ⟨m', d', hm, hd, h'⟩
    · have hs : Store.put m r = .error (.alreadyExists r.id) := hm
      have ht : Store.put d r = .error (.alreadyExists r.id) := congrArg (Except.mapError _) hd
      rw [step, step, hs, ht]
      exact ⟨.refl _, h⟩
    · have hs : Store.put m r = .ok m' := hm
      have ht : Store.put d r = .ok d' := congrArg (Except.mapError _) hd
      rw [step, step, hs, ht]
      exact ⟨.refl _, h'⟩
  | get id =>
    have ht : Store.get d id = .ok (m.find? id) := congrArg (Except.mapError _) (h.get id)
    rw [step, step, ht]
    exact ⟨.refl _, h⟩
  | has id =>
    have ht : Store.has d id = .ok (m.has id) := congrArg (Except.mapError _) (h.has id)
    rw [step, step, ht]
    exact ⟨.refl _, h⟩
  | delete id =>
    obtain ⟨d', hd, h'⟩ := h.delete id
    have ht : Store.delete d id = .ok (m.has id, d') := congrArg (Except.mapError _) hd
    simp only [step, ht]
    exact ⟨.refl _, h'⟩
  | ids =>
    obtain ⟨ids, hd, perm⟩ := h.ids
    have ht : Store.ids d = .ok ids := congrArg (Except.mapError _) hd
    rw [step, step, ht]
    exact ⟨.same (.ids perm), h⟩
  | count =>
    have ht : Store.count d = .ok m.records.length := congrArg (Except.mapError _) h.count
    rw [step, step, ht]
    exact ⟨.refl _, h⟩
  | clear =>
    obtain ⟨d', hd, h'⟩ := h.clear
    have ht : Store.clear d = .ok d' := congrArg (Except.mapError _) hd
    rw [step, step, ht]
    exact ⟨.refl _, h'⟩
  | query f =>
    have ht : Store.query d f = .ok (m.query f) := congrArg (Except.mapError _) (h.query f)
    rw [step, step, ht]
    exact ⟨.refl _, h⟩
  | stats =>
    rcases h.stats with ⟨_, hd⟩ | ⟨many, hd⟩
    · have ht : Store.stats d = .ok m.stats := congrArg (Except.mapError _) hd
      rw [step, step, ht]
      exact ⟨.refl _, h⟩
    · have ht : Store.stats d = .error EngineFault.integerOverflow.toStoreError :=
        congrArg (Except.mapError _) hd
      rw [step, step, ht]
      exact ⟨.overflow many, h⟩
  | reopen =>
    have ht : Store.reopen d = .ok d := congrArg (Except.mapError _) (migrate_applied h.versions)
    rw [step, step, ht]
    exact ⟨.refl _, h⟩

theorem run_mirrors (h : Mirrors m d) {ops : List Operation} (fits : ∀ op ∈ ops, op.Fits) :
    List.Forall₂ Agree (run m ops).1 (run d ops).1 ∧ Mirrors (run m ops).2 (run d ops).2 := by
  induction ops generalizing m d with
  | nil => exact ⟨.nil, h⟩
  | cons op ops ih =>
    obtain ⟨answer, next⟩ := step_mirrors h (fits op List.mem_cons_self)
    obtain ⟨answers, last⟩ := ih next fun op mem => fits op (List.mem_cons_of_mem _ mem)
    exact ⟨.cons answer answers, last⟩

/-- An operation adds one record at the most. -/
theorem step_length_le (m : Memory) (op : Operation) :
    (step m op).2.records.length ≤ m.records.length + 1 := by
  cases op with
  | put r =>
    show (settle m (m.put r)).2.records.length ≤ _
    unfold Memory.put
    split
    · exact Nat.le_refl _
    · exact Nat.le_succ _
  | delete id => exact Nat.le_succ_of_le (List.length_filter_le _ _)
  | clear => exact Nat.zero_le _
  | _ => exact Nat.le_succ _

/-- Where the records are few enough to be counted, a table answers the same. -/
theorem Agree.sameAnswer {op : Operation} {b : Except StoreError Outcome}
    (h : Agree (step m op).1 b) (few : m.records.length ≤ columnMax) :
    SameAnswer (step m op).1 b := by
  generalize answer : (step m op).1 = a at h
  cases h with
  | same h => exact h
  | overflow many =>
    cases op with
    | stats =>
      have palindromes : m.stats.palindromes ≤ m.records.length := List.length_filter_le _ _
      cases answer
      omega
    | put r =>
      simp only [step, settle] at answer
      split at answer <;> cases answer
    | _ => cases answer

/-- No operation of the run finds more records than a column can count. -/
def StaysCountable : Memory → List Operation → Prop
  | _, [] => True
  | m, op :: ops => m.records.length ≤ columnMax ∧ StaysCountable (step m op).2 ops

theorem staysCountable_of_length {ops : List Operation}
    (few : m.records.length + ops.length ≤ columnMax) : StaysCountable m ops := by
  induction ops generalizing m with
  | nil => trivial
  | cons op ops ih =>
    have added := step_length_le m op
    rw [List.length_cons] at few
    exact ⟨by omega, ih (m := (step m op).2) (by omega)⟩

theorem run_sameAnswer {b : List (Except StoreError Outcome)} {ops : List Operation}
    (h : List.Forall₂ Agree (run m ops).1 b) (few : StaysCountable m ops) :
    List.Forall₂ SameAnswer (run m ops).1 b := by
  induction ops generalizing m b with
  | nil =>
    cases h
    exact .nil
  | cons op ops ih =>
    obtain ⟨now, later⟩ := few
    cases h with
    | cons answer answers => exact .cons (answer.sameAnswer now) (ih answers later)

/--
Started empty, memory and table agree on every run. The one answer in which they can differ needs
more records at a time than a column can count.
-/
theorem run_agree {ops : List Operation} (h : ∀ r, .put r ∈ ops → r.FitsTable) :
    List.Forall₂ Agree (run Memory.empty ops).1 (run Database.fresh ops).1 ∧
      (StaysCountable Memory.empty ops →
        List.Forall₂ SameAnswer (run Memory.empty ops).1 (run Database.fresh ops).1) := by
  have fits : ∀ op ∈ ops, op.Fits := by
    intro op mem
    cases op with
    | put r => exact h r mem
    | _ => trivial
  have agree := (run_mirrors mirrors_fresh fits).1
  exact ⟨agree, run_sameAnswer agree⟩

/-- The last half second of 2016, which is a leap second. -/
def leapInstant : Instant := ⟨1483228799, 1500000000, by decide, by decide, by decide⟩

theorem run_agree_put_twice :
    let ops := [.put (Record.ofText "Level" leapInstant), .put (Record.ofText "Level" .epoch),
      .reopen, .query Filter.empty, .ids, .stats]
    List.Forall₂ Agree (run Memory.empty ops).1 (run Database.fresh ops).1 ∧
      List.Forall₂ SameAnswer (run Memory.empty ops).1 (run Database.fresh ops).1 := by
  intro ops
  have fits : ∀ r, .put r ∈ ops → r.FitsTable := by
    intro r mem
    have cases : r = Record.ofText "Level" leapInstant ∨ r = Record.ofText "Level" .epoch := by
      simpa [ops] using mem
    rcases cases with rfl | rfl
    · exact ⟨_, _, rfl, by decide, by decide⟩
    · exact ⟨_, _, rfl, by decide, by decide⟩
  exact ⟨(run_agree fits).1, (run_agree fits).2 (staysCountable_of_length (by decide))⟩

end Store
end TextCatalog
