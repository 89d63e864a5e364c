import TextCatalog.Proofs.Store.Agreement

/-!
# TextCatalog.Proofs.Store.Putting

What a table does with a record of any content, whatever operations came before.

* `Table.insert?_eq_none_iff`, `Table.find?_insert` — a row that is added, or refused.
* `IsOpen`, `run_isOpen` — after every operation the migrations are applied and the table is there.
* `PutsFaithfully` — when a record is refused, what is left of it when it is not, and that nothing
  else changes.
* `put_faithful` — so it is in every state that a run can reach.
-/

namespace TextCatalog

namespace Table

variable {t t' : Table} {row : Row}

theorem has_iff {id : String} : t.has id = true ↔ ∃ row ∈ t.rows, row.id = id := by
  simp [has]

theorem hasValue_iff {value : String} :
    t.hasValue value = true ↔ ∃ row ∈ t.rows, row.value = value := by
  simp [hasValue]

theorem insert?_eq_none_iff :
    t.insert? row = none ↔ t.has row.id = true ∨ t.hasValue row.value = true := by
  unfold insert?
  split
  · rename_i free
    simp [free.1, free.2]
  · rename_i taken
    cases id : t.has row.id <;> cases value : t.hasValue row.value <;> simp_all

theorem insert?_rows (h : t.insert? row = some t') : t'.rows = row :: t.rows := by
  unfold insert? at h
  split at h
  · cases h
    rfl
  · cases h

theorem find?_insert (h : t.insert? row = some t') (id : String) :
    t'.find? id = if row.id = id then some row else t.find? id := by
  rw [find?, insert?_rows h, List.find?_cons]
  by_cases same : row.id = id
  · rw [if_pos same, beq_iff_eq.mpr same]
  · rw [if_neg same, beq_eq_false_iff_ne.mpr same]
    rfl

end Table

namespace Store

/-! ## Open tables -/

structure IsOpen (d : Database) (t : Table) : Prop where
  versions : d.versions = Database.fresh.versions
  strings : d.strings = some t

theorem isOpen_fresh : IsOpen Database.fresh Table.empty := ⟨rfl, rfl⟩

variable {d : Database} {t : Table} {r : Record}

theorem IsOpen.withTable (h : IsOpen d t) (t' : Table) : IsOpen (d.withTable t') t' :=
  ⟨h.versions, rfl⟩

theorem IsOpen.put_eq (h : IsOpen d t) (r : Record) : put d r =
    if t.has r.id then .error (.alreadyExists r.id)
    else
      match t.insert? (Row.ofRecord r) with
      | some t' => .ok (d.withTable t')
      | none => .error (.backend ("SQLite: " ++ EngineFault.uniqueValue.text)) := by
  show (d.put r).mapError TableError.toStoreError = _
  simp only [Database.put, tableForRecords_eq h.strings, bind, Except.bind]
  cases t.has r.id with
  | true => rfl
  | false => cases t.insert? (Row.ofRecord r) <;> rfl

theorem get_eq (strings : d.strings = some t) (id : String) : get d id =
    match t.find? id with
    | none => .ok none
    | some row => (row.toRecord.map some).mapError TableError.toStoreError := by
  show (d.get id).mapError TableError.toStoreError = _
  simp only [Database.get, tableForRecords_eq strings, bind, Except.bind]
  cases t.find? id <;> rfl

theorem IsOpen.get_eq (h : IsOpen d t) (id : String) : get d id =
    match t.find? id with
    | none => .ok none
    | some row => (row.toRecord.map some).mapError TableError.toStoreError :=
  Store.get_eq h.strings id

theorem delete_eq (strings : d.strings = some t) (id : String) :
    delete d id = .ok (t.has id, d.withTable (t.erase id)) := by
  show (d.delete id).mapError EngineFault.toStoreError = _
  simp only [Database.delete, table_eq strings, bind, Except.bind]
  rfl

/-- Every operation leaves the table as it is or another one in its place. -/
theorem step_isOpen (h : IsOpen d t) (op : Operation) : ∃ t', IsOpen (step d op).2 t' := by
  cases op with
  | put r =>
    rw [step, h.put_eq]
    split
    · exact ⟨t, h⟩
    · split
      · rename_i t' _
        exact ⟨t', h.withTable t'⟩
      · exact ⟨t, h⟩
  | delete id =>
    simp only [step, delete_eq h.strings]
    exact ⟨_, h.withTable _⟩
  | clear =>
    have done : clear d = .ok (d.withTable Table.empty) := by
      show d.clear.mapError EngineFault.toStoreError = _
      simp only [Database.clear, table_eq h.strings, bind, Except.bind]
      rfl
    rw [step, done]
    exact ⟨_, h.withTable _⟩
  | reopen =>
    have done : reopen d = .ok d := congrArg (Except.mapError _) (migrate_applied h.versions)
    rw [step, done]
    exact ⟨t, h⟩
  | _ => exact ⟨t, h⟩

theorem run_isOpen (h : IsOpen d t) (ops : List Operation) : ∃ t', IsOpen (run d ops).2 t' := by
  induction ops generalizing d t with
  | nil => exact ⟨t, h⟩
  | cons op ops ih =>
    obtain ⟨t', next⟩ := step_isOpen h op
    exact ih next

/-! ## One record -/

/-- What putting a record of any content does, given the rows that are stored. -/
structure PutsFaithfully (d : Database) (t : Table) (r : Record) : Prop where
  ok_iff : (∃ d', put d r = .ok d') ↔ ∀ row ∈ t.rows, row.id ≠ r.id ∧ row.value ≠ r.value
  idTaken : (∃ row ∈ t.rows, row.id = r.id) → put d r = .error (.alreadyExists r.id)
  valueTaken : (∀ row ∈ t.rows, row.id ≠ r.id) → (∃ row ∈ t.rows, row.value = r.value) →
    put d r = .error (.backend ("SQLite: " ++ EngineFault.uniqueValue.text))
  refused : ∀ e, put d r = .error e → ∀ later,
    run d (.put r :: later) = (.error e :: (run d later).1, (run d later).2)
  readBack : ∀ d', put d r = .ok d' → get d' r.id =
    if r.createdAt.HasPlainYear then .ok (some (Row.clamped r))
    else .error (.invalidData
      (ColumnFault.malformedTime r.createdAt.columnText .badCharacter).text)
  exact_iff : ∀ d', put d r = .ok d' → (get d' r.id = .ok (some r) ↔
    r.properties.length ≤ columnMax ∧ r.properties.uniqueCharacters ≤ columnMax ∧
      r.properties.wordCount ≤ columnMax ∧ r.createdAt.HasPlainYear)
  others : ∀ d', put d r = .ok d' → ∀ id, id ≠ r.id → get d' id = get d id

theorem IsOpen.put_idTaken (h : IsOpen d t) (taken : ∃ row ∈ t.rows, row.id = r.id) :
    put d r = .error (.alreadyExists r.id) := by
  rw [h.put_eq, if_pos (Table.has_iff.mpr taken)]

theorem IsOpen.put_valueTaken (h : IsOpen d t) (free : ∀ row ∈ t.rows, row.id ≠ r.id)
    (taken : ∃ row ∈ t.rows, row.value = r.value) :
    put d r = .error (.backend ("SQLite: " ++ EngineFault.uniqueValue.text)) := by
  have absent : ¬t.has r.id = true := fun has => by
    obtain ⟨row, mem, same⟩ := Table.has_iff.mp has
    exact free row mem same
  have refused : t.insert? (Row.ofRecord r) = none :=
    Table.insert?_eq_none_iff.mpr (.inr (Table.hasValue_iff.mpr taken))
  rw [h.put_eq, if_neg absent, refused]

theorem IsOpen.put_free (h : IsOpen d t)
    (free : ∀ row ∈ t.rows, row.id ≠ r.id ∧ row.value ≠ r.value) :
    ∃ t', t.insert? (Row.ofRecord r) = some t' ∧ put d r = .ok (d.withTable t') := by
  have absent : ¬t.has r.id = true := fun has => by
    obtain ⟨row, mem, same⟩ := Table.has_iff.mp has
    exact (free row mem).1 same
  cases inserted : t.insert? (Row.ofRecord r) with
  | none =>
    rcases Table.insert?_eq_none_iff.mp inserted with has | has
    · exact absurd has absent
    · obtain ⟨row, mem, same⟩ := Table.hasValue_iff.mp has
      exact absurd same (free row mem).2
  | some t' => exact ⟨t', rfl, by rw [h.put_eq, if_neg absent, inserted]⟩

/-- The record is put exactly where neither of its two keys is taken. -/
theorem IsOpen.put_ok_iff (h : IsOpen d t) : (∃ d', put d r = .ok d') ↔
    ∀ row ∈ t.rows, row.id ≠ r.id ∧ row.value ≠ r.value := by
  constructor
  · rintro ⟨d', done⟩ row mem
    have idFree : ∀ row ∈ t.rows, row.id ≠ r.id := fun row mem same => by
      rw [h.put_idTaken ⟨row, mem, same⟩] at done
      cases done
    refine ⟨idFree row mem, fun same => ?_⟩
    rw [h.put_valueTaken idFree ⟨row, mem, same⟩] at done
    cases done
  · intro free
    obtain ⟨t', _, done⟩ := h.put_free free
    exact ⟨_, done⟩

theorem IsOpen.put_inserted (h : IsOpen d t) {d' : Database} (done : put d r = .ok d') :
    ∃ t', IsOpen d' t' ∧ t.insert? (Row.ofRecord r) = some t' := by
  obtain ⟨t', inserted, done'⟩ := h.put_free (h.put_ok_iff.mp ⟨d', done⟩)
  rw [done] at done'
  cases done'
  exact ⟨t', h.withTable t', inserted⟩

theorem IsOpen.get_put (h : IsOpen d t) (counted : r.properties.IsCounted) {d' : Database}
    (done : put d r = .ok d') : get d' r.id =
      if r.createdAt.HasPlainYear then .ok (some (Row.clamped r))
      else .error (.invalidData
        (ColumnFault.malformedTime r.createdAt.columnText .badCharacter).text) := by
  obtain ⟨t', open', inserted⟩ := h.put_inserted done
  have found : t'.find? r.id = some (Row.ofRecord r) := by
    rw [Table.find?_insert inserted]
    exact if_pos rfl
  rw [open'.get_eq, found]
  by_cases plain : r.createdAt.HasPlainYear
  · simp only [Row.toRecord_ofRecord_plain counted plain, if_pos plain]
    rfl
  · simp only [Row.toRecord_ofRecord_far counted plain, if_neg plain]
    rfl

theorem IsOpen.get_put_of_ne (h : IsOpen d t) {d' : Database} (done : put d r = .ok d')
    {id : String} (other : id ≠ r.id) : get d' id = get d id := by
  obtain ⟨t', open', inserted⟩ := h.put_inserted done
  have found : t'.find? id = t.find? id := by
    rw [Table.find?_insert inserted]
    exact if_neg fun same => other same.symm
  rw [open'.get_eq, h.get_eq, found]

theorem IsOpen.get_put_exact_iff (h : IsOpen d t) (counted : r.properties.IsCounted)
    {d' : Database} (done : put d r = .ok d') : get d' r.id = .ok (some r) ↔
      r.properties.length ≤ columnMax ∧ r.properties.uniqueCharacters ≤ columnMax ∧
        r.properties.wordCount ≤ columnMax ∧ r.createdAt.HasPlainYear := by
  rw [h.get_put counted done]
  by_cases plain : r.createdAt.HasPlainYear
  · have kept := @Row.clamped_eq_iff r
    rw [if_pos plain, Except.ok.injEq, Option.some.injEq, kept]
    simp [plain]
  · rw [if_neg plain]
    simp [plain]

/-- A record that is refused leaves no trace in what follows. -/
theorem run_put_refused {e : StoreError} (h : put d r = .error e) (later : List Operation) :
    run d (.put r :: later) = (.error e :: (run d later).1, (run d later).2) := by
  simp only [run, step, h, settle]

theorem IsOpen.putsFaithfully (h : IsOpen d t) (counted : r.properties.IsCounted) :
    PutsFaithfully d t r where
  ok_iff := h.put_ok_iff
  idTaken := h.put_idTaken
  valueTaken := h.put_valueTaken
  refused _ refused := run_put_refused refused
  readBack _ done := h.get_put counted done
  exact_iff _ done := h.get_put_exact_iff counted done
  others _ done _ other := h.get_put_of_ne done other

/--
After any run a record of any content is stored, or refused for its id or its value; what is read
back differs from it only where a column cannot hold it.
-/
theorem put_faithful (ops : List Operation) {r : Record} (h : r.properties.IsCounted) :
    ∃ t, (run Database.fresh ops).2.strings = some t ∧
      PutsFaithfully (run Database.fresh ops).2 t r := by
  obtain ⟨t, opened⟩ := run_isOpen isOpen_fresh ops
  exact ⟨t, opened.strings, opened.putsFaithfully h⟩

/-- A record with a chosen id, counts that no column holds and a year of five digits. -/
def oversized (id value : String) : Record where
  id
  value
  properties := ⟨Text.countMax, true, Text.countMax, 0, "", FrequencyMap.empty⟩
  createdAt := ⟨253402300800, 999999999, by decide, by decide, by decide⟩

theorem put_faithful_oversized :
    let ops := [.put (oversized "a" "noon"), .put (oversized "a" "level"), .reopen]
    (oversized "b" "noon").properties.IsCounted ∧
      put (run Database.fresh ops).2 (oversized "b" "noon") =
        .error (.backend ("SQLite: " ++ EngineFault.uniqueValue.text)) := by
  intro ops
  have counted : (oversized "b" "noon").properties.IsCounted :=
    ⟨by decide, by decide, by decide, fun e mem => by cases mem⟩
  obtain ⟨t, strings, faithful⟩ := put_faithful ops counted
  have rows : t.rows = [Row.ofRecord (oversized "a" "noon")] := by
    cases strings
    rfl
  refine ⟨counted, faithful.valueTaken ?_ ?_⟩
  · rw [rows]
    decide
  · rw [rows]
    exact ⟨_, List.mem_singleton.mpr rfl, rfl⟩

end Store
end TextCatalog
