import TextCatalog.Proofs.Store.Contents
import TextCatalog.Proofs.Store.Putting
import TextCatalog.Proofs.Table.Selection

/-!
# TextCatalog.Proofs.Store.Damage

What a database answers when some of its rows are no records.

* `Change.run_isTimed` — rows are put and their columns written over, and every time is still a
  text if none is written that reads as a number.
* `AnswersRows` — a query answers with its rows or with the reason of the first bad column of the
  first bad row.
* `ContainsDamage` — a bad row fails the queries that select it and looking it up, and nothing else;
  without the bad rows every query answers with what is left of its rows.
* `damage_contained` — so it is for every content of the table.
-/

namespace TextCatalog
namespace Store

variable {d d' : Database} {t t' : Table} {row : Row} {id : String}

/-! ## Changes of rows -/

/-- A record is put, or one column of the row of an id is written over from outside. -/
inductive Change where
  | put (r : Record)
  | write (id : String) (w : Database.Write)

/-- A change that is refused leaves the database as it was. -/
def Change.apply (d : Database) : Change → Database
  | .put r => (settle d (Store.put d r)).2
  | .write id w =>
    match d.write id w with
    | .ok (_, d') => d'
    | .error _ => d

/-- What is written as a time is kept as a text. -/
def Change.KeepsText : Change → Prop
  | .write _ (.text .createdAt s) => WrittenNumber.ofText? s = none
  | _ => True

theorem update?_rows {change : Row → Row} (h : t.update? id change = some t') :
    t'.rows = t.rows.map fun row => if row.id = id then change row else row := by
  simp only [Table.update?] at h
  split at h
  · cases h
    rfl
  · cases h

theorem write_timed {w : Database.Write} (keeps : (Change.write id w).KeepsText)
    (h : row.IsTimed) : (w.apply row).IsTimed := by
  cases w with
  | integer column n => cases column <;> exact h
  | text column s =>
    cases column with
    | createdAt =>
      have keeps : WrittenNumber.ofText? s = none := keeps
      refine ⟨s, ?_⟩
      simp only [Database.Write.apply, Cell.ofText, keeps]
    | _ => exact h

theorem Change.apply_isTimed {c : Change} (h : IsOpen d t) (timed : t.IsTimed)
    (keeps : c.KeepsText) : ∃ t', IsOpen (c.apply d) t' ∧ t'.IsTimed := by
  cases c with
  | put r =>
    cases done : Store.put d r with
    | error e =>
      simp only [Change.apply, done, settle]
      exact ⟨t, h, timed⟩
    | ok d' =>
      obtain ⟨t', open', inserted⟩ := h.put_inserted done
      simp only [Change.apply, done, settle]
      refine ⟨t', open', ?_⟩
      rw [Table.IsTimed, Table.insert?_rows inserted]
      exact List.forall_mem_cons.mpr ⟨⟨_, Row.createdAt_ofRecord r⟩, timed⟩
  | write id w =>
    simp only [Change.apply, Database.write, tableForRecords_eq h.strings, bind, Except.bind]
    cases updated : t.update? id w.apply with
    | none => exact ⟨t, h, timed⟩
    | some t' =>
      refine ⟨t', h.withTable t', ?_⟩
      rw [Table.IsTimed, update?_rows updated]
      refine List.forall_mem_map.mpr fun row mem => ?_
      split
      · exact write_timed keeps (timed row mem)
      · exact timed row mem

theorem Change.run_isTimed (h : IsOpen d t) (timed : t.IsTimed) {cs : List Change}
    (keeps : ∀ c ∈ cs, c.KeepsText) :
    ∃ t', IsOpen (cs.foldl Change.apply d) t' ∧ t'.IsTimed := by
  induction cs generalizing d t with
  | nil => exact ⟨t, h, timed⟩
  | cons c cs ih =>
    obtain ⟨first, later⟩ := List.forall_mem_cons.mp keeps
    obtain ⟨t', open', timed'⟩ := Change.apply_isTimed h timed first
    exact ih open' timed' later

/-! ## Queries -/

/-- The answer of a query that selects these rows, in their order. -/
structure AnswersRows (rows : List Row) (answer : Except StoreError (List Record)) : Prop where
  ok_iff : (∃ rs, answer = .ok rs) ↔ ∀ row ∈ rows, row.Decodes
  records_iff : ∀ rs, answer = .ok rs ↔ List.Forall₂ Row.Reads rows rs
  error_iff : ∀ e, answer = .error e ↔ ∃ before row after c reason,
    rows = before ++ row :: after ∧ (∀ b ∈ before, b.Decodes) ∧ row.FirstBad c reason ∧
      e = reason.toStoreError

theorem answersRows_mapM {rows : List Row} (timed : ∀ row ∈ rows, row.IsTimed) :
    AnswersRows rows ((rows.mapM Row.toRecord).mapError TableError.toStoreError) where
  ok_iff := by
    simp only [mapError_eq_ok_iff, exists_mapM_eq_ok_iff]
    exact forall₂_congr fun row mem => Row.exists_toRecord_iff (timed row mem)
  records_iff rs := by
    simp only [mapError_eq_ok_iff, mapM_eq_ok_iff, Row.toRecord_eq_ok_iff]
  error_iff e := by
    simp only [mapError_eq_error_iff, mapM_eq_error_iff]
    constructor
    · rintro ⟨reason, ⟨before, row, after, rfl, fine, failed⟩, rfl⟩
      have timedRow := timed row (List.mem_append_right before List.mem_cons_self)
      obtain ⟨c, bad⟩ := (Row.toRecord_eq_error_iff timedRow).mp failed
      refine ⟨before, row, after, c, reason, rfl, fun b mem => ?_, bad, rfl⟩
      exact (Row.exists_toRecord_iff (timed b (List.mem_append_left _ mem))).mp (fine b mem)
    · rintro ⟨before, row, after, c, reason, rfl, fine, bad, rfl⟩
      have timedRow := timed row (List.mem_append_right before List.mem_cons_self)
      have failed := (Row.toRecord_eq_error_iff timedRow).mpr ⟨c, bad⟩
      refine ⟨reason, ⟨before, row, after, rfl, fun b mem => ?_, failed⟩, rfl⟩
      exact (Row.exists_toRecord_iff (timed b (List.mem_append_left _ mem))).mpr (fine b mem)

theorem query_eq (strings : d.strings = some t) (f : Filter) :
    query d f = ((t.select f).mapM Row.toRecord).mapError TableError.toStoreError := by
  show (d.query f).mapError TableError.toStoreError = _
  simp only [Database.query, tableForRecords_eq strings, bind, Except.bind]

theorem answersRows_query (strings : d.strings = some t) (timed : t.IsTimed) (f : Filter) :
    ∃ rows, t.Lists f rows ∧ AnswersRows rows (query d f) := by
  refine ⟨t.select f, Table.lists_select timed, ?_⟩
  rw [query_eq strings]
  exact answersRows_mapM fun row mem => timed row (Table.mem_select.mp mem).1

/-! ## Looking up -/

theorem find?_eq_some_iff : t.find? id = some row ↔ row ∈ t.rows ∧ row.id = id :=
  find?_key_eq_some_iff (List.pairwise_map.mpr (t.apart.imp And.left))

theorem get_absent (strings : d.strings = some t) (absent : ∀ row ∈ t.rows, row.id ≠ id) :
    get d id = .ok none := by
  have none : t.find? id = none := List.find?_eq_none.mpr fun row mem same =>
    absent row mem (beq_iff_eq.mp same)
  rw [get_eq strings, none]

theorem get_of_mem (strings : d.strings = some t) (mem : row ∈ t.rows) :
    get d row.id = (row.toRecord.map some).mapError TableError.toStoreError := by
  rw [get_eq strings, find?_eq_some_iff.mpr ⟨mem, rfl⟩]

theorem get_eq_some_iff (strings : d.strings = some t) (mem : row ∈ t.rows) {r : Record} :
    get d row.id = .ok (some r) ↔ row.Reads r := by
  rw [get_of_mem strings mem, mapError_eq_ok_iff, ← Row.toRecord_eq_ok_iff]
  cases row.toRecord <;> simp [Except.map]

theorem get_eq_error_iff (strings : d.strings = some t) (mem : row ∈ t.rows)
    (timed : row.IsTimed) {e : StoreError} : get d row.id = .error e ↔
      ∃ c reason, row.FirstBad c reason ∧ e = reason.toStoreError := by
  have failed : ∀ e, row.toRecord.map some = .error e ↔ ∃ c, row.FirstBad c e := by
    intro e
    rw [← Row.toRecord_eq_error_iff timed]
    cases row.toRecord <;> simp [Except.map]
  rw [get_of_mem strings mem, mapError_eq_error_iff]
  simp only [failed]
  constructor
  · rintro ⟨reason, ⟨c, bad⟩, rfl⟩
    exact ⟨c, reason, bad, rfl⟩
  · rintro ⟨c, reason, bad, rfl⟩
    exact ⟨reason, ⟨c, bad⟩, rfl⟩

/-- Two databases that have the same row for an id, or both have none, give the same answer. -/
theorem get_local (strings : d.strings = some t) (strings' : d'.strings = some t')
    (same : ∀ row, row.id = id → (row ∈ t'.rows ↔ row ∈ t.rows)) : get d' id = get d id := by
  have found : t'.find? id = t.find? id := Option.ext fun row => by
    rw [find?_eq_some_iff, find?_eq_some_iff]
    exact and_congr_left (same row)
  rw [get_eq strings, get_eq strings', found]

/-! ## Deleting -/

theorem run_deletes (strings : d.strings = some t) (ids : List String) :
    (∀ a ∈ (run d (ids.map .delete)).1, ∃ b, a = .ok (.flag b)) ∧
      ∃ t', (run d (ids.map .delete)).2.strings = some t' ∧
        t'.rows = t.rows.filter fun row => !ids.contains row.id := by
  induction ids generalizing d t with
  | nil => exact ⟨List.forall_mem_nil _, t, strings, by simp⟩
  | cons id ids ih =>
    have erased : (d.withTable (t.erase id)).strings = some (t.erase id) := rfl
    obtain ⟨flags, t', strings', rows⟩ := ih erased
    simp only [List.map_cons, run, step, delete_eq strings]
    refine ⟨List.forall_mem_cons.mpr ⟨⟨_, rfl⟩, flags⟩, t', strings', ?_⟩
    rw [rows]
    show (t.rows.filter _).filter _ = _
    rw [List.filter_filter]
    refine List.filter_congr fun row _ => ?_
    rw [List.contains_cons, Bool.not_or, Bool.and_comm]
    rfl

/-- Once the rows that are no records are deleted, queries give what is left of their rows. -/
theorem run_repair (strings : d.strings = some t) (timed : t.IsTimed) {ids : List String}
    (exact : ∀ row ∈ t.rows, row.id ∈ ids ↔ ¬row.Decodes) {f : Filter} {rows : List Row}
    (lists : t.Lists f rows) : ∃ rs, query (run d (ids.map .delete)).2 f = .ok rs ∧
      List.Forall₂ Row.Reads (rows.filter fun row => decide row.Decodes) rs := by
  obtain ⟨_, t', strings', left⟩ := run_deletes strings ids
  have kept : t'.rows = t.rows.filter fun row => decide row.Decodes := by
    rw [left]
    refine List.filter_congr fun row mem => ?_
    rw [Bool.eq_iff_iff]
    simp [exact row mem]
  have timed' : t'.IsTimed := fun row mem => by
    rw [kept] at mem
    exact timed row (List.mem_filter.mp mem).1
  obtain ⟨rows', lists', answers⟩ := answersRows_query strings' timed' f
  obtain rfl := lists'.unique (lists.filter kept)
  obtain ⟨rs, answer⟩ := answers.ok_iff.mpr fun row mem =>
    of_decide_eq_true (List.mem_filter.mp mem).2
  exact ⟨rs, answer, (answers.records_iff rs).mp answer⟩

/-! ## All operations -/

/-- What a database with these rows answers. -/
structure ContainsDamage (d : Database) (t : Table) : Prop where
  query : ∀ f, ∃ rows, t.Lists f rows ∧ AnswersRows rows (Store.query d f)
  getAbsent : ∀ id, (∀ row ∈ t.rows, row.id ≠ id) → get d id = .ok none
  getRecord : ∀ row ∈ t.rows, ∀ r, get d row.id = .ok (some r) ↔ row.Reads r
  getError : ∀ row ∈ t.rows, ∀ e, get d row.id = .error e ↔
    ∃ c reason, row.FirstBad c reason ∧ e = reason.toStoreError
  getLocal : ∀ (d' : Database) (t' : Table) id, d'.strings = some t' →
    (∀ row, row.id = id → (row ∈ t'.rows ↔ row ∈ t.rows)) → get d' id = get d id
  has : ∀ id, ∃ b, Store.has d id = .ok b ∧ (b = true ↔ ∃ row ∈ t.rows, row.id = id)
  ids : ∃ rows, t.Lists Filter.empty rows ∧ Store.ids d = .ok (rows.map (·.id))
  count : Store.count d = .ok t.rows.length
  delete : ∀ id, ∃ b d' t', Store.delete d id = .ok (b, d') ∧
    (b = true ↔ ∃ row ∈ t.rows, row.id = id) ∧ d'.strings = some t' ∧
    t'.rows = t.rows.filter fun row => row.id != id
  deletes : ∀ ids : List String, ∀ a ∈ (run d (ids.map .delete)).1, ∃ b, a = .ok (.flag b)
  repaired : ∀ ids : List String, (∀ row ∈ t.rows, row.id ∈ ids ↔ ¬row.Decodes) →
    ∀ f rows, t.Lists f rows → ∃ rs, Store.query (run d (ids.map .delete)).2 f = .ok rs ∧
      List.Forall₂ Row.Reads (rows.filter fun row => decide row.Decodes) rs

theorem has_eq (strings : d.strings = some t) (id : String) : has d id = .ok (t.has id) := by
  show (d.has id).mapError TableError.toStoreError = _
  simp only [Database.has, tableForRecords_eq strings, bind, Except.bind]
  rfl

theorem count_eq (strings : d.strings = some t) : count d = .ok t.rows.length := by
  show d.count.mapError EngineFault.toStoreError = _
  simp only [Database.count, table_eq strings, bind, Except.bind]
  rfl

/-- A filter without conditions selects every row. -/
theorem select_empty (t : Table) : t.select Filter.empty = t.rows.mergeSort Row.inOrder := by
  rw [Table.select, List.filter_eq_self.mpr]
  intro row _
  rfl

theorem ids_eq (strings : d.strings = some t) :
    ids d = .ok ((t.select Filter.empty).map (·.id)) := by
  show d.ids.mapError EngineFault.toStoreError = _
  simp only [Database.ids, table_eq strings, bind, Except.bind, select_empty]
  rfl

/--
Whatever the columns of the rows hold, as long as the times are texts, a row that is no record
fails the queries that select it and looking it up, for its first bad column, and nothing else.
-/
theorem damage_contained (strings : d.strings = some t) (timed : t.IsTimed) :
    ContainsDamage d t where
  query := answersRows_query strings timed
  getAbsent _ := get_absent strings
  getRecord _ mem _ := get_eq_some_iff strings mem
  getError row mem _ := get_eq_error_iff strings mem (timed row mem)
  getLocal _ _ _ strings' := get_local strings strings'
  has id := ⟨t.has id, has_eq strings id, Table.has_iff⟩
  ids := ⟨t.select Filter.empty, Table.lists_select timed, ids_eq strings⟩
  count := count_eq strings
  delete id := ⟨t.has id, _, t.erase id, delete_eq strings id, Table.has_iff, rfl, rfl⟩
  deletes ids := (run_deletes strings ids).1
  repaired _ exact _ _ := run_repair strings timed exact

/-- Four records are put, then three of their rows are spoiled, one of them in two columns. -/
def spoiling : List Change :=
  [.put (undated "a" "noon"), .put (undated "b" "level"), .put (undated "c" "dusk"),
    .put (undated "d" "wow"), .write "b" (.integer .wordCount (-1)),
    .write "b" (.text .createdAt "dawn"), .write "a" (.text .frequencies "[]"),
    .write "d" (.text .createdAt "2023-02-29T00:00:00Z")]

theorem damage_contained_spoiling :
    let d := spoiling.foldl Change.apply Database.fresh
    let healthy := Row.ofRecord (undated "c" "dusk")
    let mapless := { Row.ofRecord (undated "a" "noon") with frequencies := "[]" }
    let dayless := { Row.ofRecord (undated "d" "wow") with
      createdAt := .text "2023-02-29T00:00:00Z" }
    let negative := { Row.ofRecord (undated "b" "level") with
      wordCount := -1, createdAt := .text "dawn" }
    ∃ t, d.strings = some t ∧ t.IsTimed ∧
      t.Lists Filter.empty [mapless, healthy, dayless, negative] ∧
      query d Filter.empty = .error
        (.serialization "invalid type: sequence, expected a map at line 1 column 0") ∧
      get d "b" = .error (.invalidData "negative word_count: -1") ∧
      get d "d" = .error
        (.invalidData "invalid datetime '2023-02-29T00:00:00Z': input is out of range") ∧
      ids d = .ok ["a", "c", "d", "b"] ∧
      ∃ rs, query (run d [.delete "b", .delete "a", .delete "d"]).2 Filter.empty = .ok rs ∧
        List.Forall₂ Row.Reads [healthy] rs := by
  intro d healthy mapless dayless negative
  have keeps : ∀ c ∈ spoiling, c.KeepsText := by
    simp only [spoiling, List.forall_mem_cons]
    refine ⟨trivial, trivial, trivial, trivial, trivial, ?_, trivial, ?_, List.forall_mem_nil _⟩
    · show WrittenNumber.ofText? "dawn" = none
      decide
    · show WrittenNumber.ofText? "2023-02-29T00:00:00Z" = none
      decide
  obtain ⟨t, opened, timed⟩ := Change.run_isTimed isOpen_fresh (List.forall_mem_nil _) keeps
  have contained := damage_contained opened.strings timed
  have rows : t.rows = [dayless, healthy, negative, mapless] := by
    cases opened.strings
    rfl
  have lists : t.Lists Filter.empty [mapless, healthy, dayless, negative] := by
    refine ⟨fun row => ?_, ?_⟩
    · rw [rows, and_iff_left (show row.isSelected Filter.empty = true from rfl)]
      simp only [List.mem_cons, List.not_mem_nil, or_false]
      tauto
    · have tied : mapless.Precedes healthy := ⟨_, _, rfl, rfl, .inr ⟨rfl, by decide⟩⟩
      have first : mapless.Precedes dayless ∧ mapless.Precedes negative :=
        ⟨⟨_, _, rfl, rfl, .inl (by decide)⟩, ⟨_, _, rfl, rfl, .inl (by decide)⟩⟩
      have second : healthy.Precedes dayless ∧ healthy.Precedes negative :=
        ⟨⟨_, _, rfl, rfl, .inl (by decide)⟩, ⟨_, _, rfl, rfl, .inl (by decide)⟩⟩
      have third : dayless.Precedes negative := ⟨_, _, rfl, rfl, .inl (by decide)⟩
      simp [tied, first, second, third]
  have bad : mapless.FirstBad .frequencies
      (.json "invalid type: sequence, expected a map at line 1 column 0") :=
    ⟨[.length, .uniqueCharacters, .wordCount], [.createdAt], rfl, by decide, by decide +kernel⟩
  have bad' : negative.FirstBad .wordCount (.invalidData "negative word_count: -1") :=
    ⟨[.length, .uniqueCharacters], [.frequencies, .createdAt], rfl, by decide, by decide⟩
  have bad'' : dayless.FirstBad .createdAt
      (.invalidData "invalid datetime '2023-02-29T00:00:00Z': input is out of range") :=
    ⟨[.length, .uniqueCharacters, .wordCount, .frequencies], [], rfl, by decide +kernel,
      by decide +kernel⟩
  have left : [mapless, healthy, dayless, negative].filter (fun row => decide row.Decodes) =
      [healthy] := by
    decide +kernel
  refine ⟨t, opened.strings, timed, lists, ?_, ?_, ?_, ?_, ?_⟩
  · obtain ⟨rows, lists', answers⟩ := contained.query Filter.empty
    cases lists'.unique lists
    exact (answers.error_iff _).mpr ⟨[], mapless, _, .frequencies, _, rfl, nofun, bad, rfl⟩
  · exact (contained.getError negative (by simp [rows]) _).mpr ⟨.wordCount, _, bad', rfl⟩
  · exact (contained.getError dayless (by simp [rows]) _).mpr ⟨.createdAt, _, bad'', rfl⟩
  · obtain ⟨rows, lists', listed⟩ := contained.ids
    cases lists'.unique lists
    exact listed
  · rw [← left]
    refine contained.repaired ["b", "a", "d"] ?_ Filter.empty _ lists
    rw [rows]
    decide +kernel

end Store
end TextCatalog
