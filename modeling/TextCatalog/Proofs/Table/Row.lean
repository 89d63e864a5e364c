import TextCatalog.Proofs.Instant.Column
import TextCatalog.Proofs.Record.Properties
import TextCatalog.Proofs.Table.Cell
import TextCatalog.Proofs.Text.Utf8
import TextCatalog.Store.Memory
import TextCatalog.Table.Row

/-!
# TextCatalog.Proofs.Table.Row

What a row says of the record it was made from.

* `Record.FitsTable` — a catalogued text whose counts and time the columns can hold.
* `Row.timeColumn_code` — the column of the time is exact and in the order of the times.
* `toRecord_ofRecord_plain`, `toRecord_ofRecord_far` — what is read back of any record.
* `toRecord_ofRecord` — nothing is lost of one that fits.
* `isSelected_complete` — the condition on columns keeps what the filter accepts, for every filter
  and every record, and is the filter on counts that a column can hold.
* `inOrder_ofRecord` — rows are in the order of their records.
-/

namespace TextCatalog

open Text

def Record.FitsTable (r : Record) : Prop :=
  ∃ value t, r = Record.ofText value t ∧ t.HasPlainYear ∧ value.toList.length < columnMax

theorem Record.FitsTable.id_eq {r : Record} (h : r.FitsTable) : r.id = Record.idOf r.value := by
  obtain ⟨value, t, rfl, _⟩ := h
  rfl

theorem Record.FitsTable.plainYear {r : Record} (h : r.FitsTable) :
    r.createdAt.HasPlainYear := by
  obtain ⟨value, t, rfl, plain, _⟩ := h
  exact plain

theorem Record.FitsTable.length_lt {r : Record} (h : r.FitsTable) :
    r.properties.length < columnMax := by
  obtain ⟨value, t, rfl, _, short⟩ := h
  exact short

theorem Record.FitsTable.wordCount_lt {r : Record} (h : r.FitsTable) :
    r.properties.wordCount < columnMax := by
  obtain ⟨value, t, rfl, _, short⟩ := h
  exact Nat.lt_of_le_of_lt (Properties.wordCount_ofText_le value) short

theorem Record.FitsTable.uniqueCharacters_lt {r : Record} (h : r.FitsTable) :
    r.properties.uniqueCharacters < columnMax := by
  obtain ⟨value, t, rfl, _, short⟩ := h
  exact Nat.lt_of_le_of_lt (Properties.uniqueCharacters_ofText_le value) short

theorem Record.FitsTable.isCounted {r : Record} (h : r.FitsTable) : r.properties.IsCounted := by
  obtain ⟨value, t, rfl, _, short⟩ := h
  refine Properties.isCounted_ofText (Nat.lt_trans short ?_)
  decide

/-! ## Columns -/

theorem columnOfCount_mono {m n : Nat} (h : m ≤ n) : columnOfCount m ≤ columnOfCount n := by
  show ((min m columnMax : Nat) : Int) ≤ (min n columnMax : Nat)
  omega

theorem columnOfCount_le_iff {m n : Nat} (h : n < columnMax) :
    columnOfCount m ≤ columnOfCount n ↔ m ≤ n := by
  show ((min m columnMax : Nat) : Int) ≤ (min n columnMax : Nat) ↔ _
  omega

theorem columnOfCount_ge_iff {m n : Nat} (h : n < columnMax) :
    columnOfCount n ≤ columnOfCount m ↔ n ≤ m := by
  show ((min n columnMax : Nat) : Int) ≤ (min m columnMax : Nat) ↔ _
  omega

theorem columnOfCount_inj {m n : Nat} (h : n < columnMax) :
    columnOfCount n = columnOfCount m ↔ n = m := by
  show ((min n columnMax : Nat) : Int) = (min m columnMax : Nat) ↔ _
  omega

theorem columnOfFlag_inj {a b : Bool} : columnOfFlag a = columnOfFlag b ↔ a = b := by
  cases a <;> cases b <;> decide

theorem columnOfFlag_ne_zero (b : Bool) : (columnOfFlag b != 0) = b := by
  cases b <;> rfl

theorem Filter.onField_mono {α : Type} {field : Option α} {test test' : α → Bool}
    (h : ∀ a, test a = true → test' a = true) (holds : onField field test = true) :
    onField field test' = true := by
  cases field with
  | none => rfl
  | some a => exact h a holds

theorem toLower_contains (c : Char) (s : List Char) :
    (s.map Char.toLower).contains c.toLower = s.any (Filter.sameLetter c) := by
  induction s with
  | nil => rfl
  | cons d s ih =>
    rw [List.map_cons, List.contains_cons, ih]
    rfl

namespace Row

theorem toCount_columnOfCount (n : Nat) (column : String) :
    toCount column (columnOfCount n) = .ok (min n columnMax) :=
  rfl

/-! ## The column of the time -/

theorem toTime_columnText {t : Instant} (plain : t.HasPlainYear) :
    toTime t.columnText = .ok t := by
  rw [toTime, timeOfColumn, Instant.ofStrictText_columnText plain]
  rfl

theorem toTime_columnText_far {t : Instant} (far : ¬t.HasPlainYear) :
    toTime t.columnText =
      .error (.invalidData (ColumnFault.malformedTime t.columnText .badCharacter).text) := by
  rw [toTime, timeOfColumn, Instant.ofStrictText_columnText_far far]
  rfl

/--
The text of a time in the years of four digits is read back exactly, and the bytes of two such
texts are in the order of the times, leap seconds included. No other time is read back.
-/
theorem timeColumn_code (t : Instant) :
    (t.HasPlainYear → toTime t.columnText = .ok t ∧
      ∀ u : Instant, u.HasPlainYear →
        (t < u ↔ Utf8.encode t.columnText.toList < Utf8.encode u.columnText.toList)) ∧
    (¬t.HasPlainYear → toTime t.columnText =
      .error (.invalidData (ColumnFault.malformedTime t.columnText .badCharacter).text)) := by
  refine ⟨fun plain => ⟨toTime_columnText plain, fun u plain' => ?_⟩, toTime_columnText_far⟩
  rw [Utf8.encode_lt_iff]
  exact (Instant.columnText_lt_iff plain plain').symm

/-- A leap second, the second after it and the first year of five digits. -/
theorem timeColumn_code_leap :
    let leap : Instant := ⟨1483228799, 1500000000, by decide, by decide, by decide⟩
    let next : Instant := ⟨1483228800, 0, by decide, by decide, by decide⟩
    let far : Instant := ⟨253402300800, 0, by decide, by decide, by decide⟩
    toTime leap.columnText = .ok leap ∧
      Utf8.encode leap.columnText.toList < Utf8.encode next.columnText.toList ∧
      toTime far.columnText =
        .error (.invalidData (ColumnFault.malformedTime far.columnText .badCharacter).text) := by
  intro leap next far
  have plain : leap.HasPlainYear := by decide
  have plain' : next.HasPlainYear := by decide
  have distant : ¬far.HasPlainYear := by decide
  obtain ⟨read, order⟩ := (timeColumn_code leap).1 plain
  exact ⟨read, (order next plain').mp (by decide), (timeColumn_code far).2 distant⟩

/-! ## Records and rows -/

/-- A record as a table keeps it: counts that do not fit a column become its greatest number. -/
def clamped (r : Record) : Record :=
  { r with properties := { r.properties with
      length := min r.properties.length columnMax
      uniqueCharacters := min r.properties.uniqueCharacters columnMax
      wordCount := min r.properties.wordCount columnMax } }

theorem clamped_eq_iff {r : Record} : clamped r = r ↔ r.properties.length ≤ columnMax ∧
    r.properties.uniqueCharacters ≤ columnMax ∧ r.properties.wordCount ≤ columnMax := by
  obtain ⟨id, value, ⟨length, flag, unique, words, hash, frequencies⟩, createdAt⟩ := r
  simp only [clamped, Record.mk.injEq, Properties.mk.injEq, true_and, and_true]
  omega

theorem toFrequencies_compact {p : Properties} (h : p.IsCounted) :
    toFrequencies p.frequencies.compact = .ok p.frequencies := by
  rw [toFrequencies, FrequencyMap.read_compact h.frequencies]
  rfl

theorem toRecord_ofRecord_plain {r : Record} (h : r.properties.IsCounted)
    (plain : r.createdAt.HasPlainYear) : (ofRecord r).toRecord = .ok (clamped r) := by
  rw [toRecord, timeText_ofRecord]
  simp only [ofRecord, toCount_columnOfCount, toFrequencies_compact h, toTime_columnText plain,
    columnOfFlag_ne_zero, bind, Except.bind]
  rfl

theorem toRecord_ofRecord_far {r : Record} (h : r.properties.IsCounted)
    (far : ¬r.createdAt.HasPlainYear) : (ofRecord r).toRecord = .error (.invalidData
      (ColumnFault.malformedTime r.createdAt.columnText .badCharacter).text) := by
  rw [toRecord, timeText_ofRecord]
  simp only [ofRecord, toCount_columnOfCount, toFrequencies_compact h, toTime_columnText_far far,
    bind, Except.bind]

theorem toRecord_ofRecord {r : Record} (h : r.FitsTable) : (ofRecord r).toRecord = .ok r := by
  have whole : clamped r = r := clamped_eq_iff.mpr
    ⟨Nat.le_of_lt h.length_lt, Nat.le_of_lt h.uniqueCharacters_lt, Nat.le_of_lt h.wordCount_lt⟩
  rw [toRecord_ofRecord_plain h.isCounted h.plainYear, whole]

/-! ## Selection -/

/-- A filter that the columns can be compared with loses nothing that it accepts. -/
theorem isSelected_of_accepts {f : Filter} {r : Record} (h : f.accepts r = true) :
    isSelected f (ofRecord r) = true := by
  simp only [Filter.accepts, Bool.and_eq_true] at h
  obtain ⟨⟨⟨⟨flag, low⟩, high⟩, words⟩, letter⟩ := h
  simp only [isSelected, Bool.and_eq_true]
  refine ⟨⟨⟨⟨Filter.onField_mono ?_ flag, Filter.onField_mono ?_ low⟩,
    Filter.onField_mono ?_ high⟩, Filter.onField_mono ?_ words⟩, Filter.onField_mono ?_ letter⟩
  · intro b same
    exact beq_iff_eq.mpr (congrArg columnOfFlag (beq_iff_eq.mp same))
  · intro n above
    exact decide_eq_true (columnOfCount_mono (of_decide_eq_true above))
  · intro n below
    exact decide_eq_true (columnOfCount_mono (of_decide_eq_true below))
  · intro n same
    exact beq_iff_eq.mpr (congrArg columnOfCount (beq_iff_eq.mp same))
  · intro c found
    rw [toLower_contains]
    exact found

theorem isSelected_of_lt {r : Record} (length_lt : r.properties.length < columnMax)
    (wordCount_lt : r.properties.wordCount < columnMax) (f : Filter) :
    isSelected f (ofRecord r) = f.accepts r := by
  have flag : ∀ b, ((ofRecord r).isPalindrome == columnOfFlag b) =
      (r.properties.isPalindrome == b) :=
    fun b => Bool.eq_iff_iff.mpr (by rw [beq_iff_eq, beq_iff_eq]; exact columnOfFlag_inj)
  have low : ∀ n, decide (columnOfCount n ≤ (ofRecord r).length) =
      decide (n ≤ r.properties.length) :=
    fun n => decide_eq_decide.mpr (columnOfCount_le_iff length_lt)
  have high : ∀ n, decide ((ofRecord r).length ≤ columnOfCount n) =
      decide (r.properties.length ≤ n) :=
    fun n => decide_eq_decide.mpr (columnOfCount_ge_iff length_lt)
  have words : ∀ n, ((ofRecord r).wordCount == columnOfCount n) =
      (r.properties.wordCount == n) :=
    fun n => Bool.eq_iff_iff.mpr (by
      rw [beq_iff_eq, beq_iff_eq]
      exact columnOfCount_inj wordCount_lt)
  simp only [isSelected, Filter.accepts, flag, low, high, words, toLower_contains]
  rfl

theorem isSelected_ofRecord {r : Record} (h : r.FitsTable) (f : Filter) :
    isSelected f (ofRecord r) = f.accepts r :=
  isSelected_of_lt h.length_lt h.wordCount_lt f

/--
The condition on columns selects every record that the filter accepts, whatever its counts. It
selects no other one where the length and the count of words are below the greatest number of a
column.
-/
theorem isSelected_complete (f : Filter) (r : Record) :
    (f.accepts r = true → isSelected f (ofRecord r) = true) ∧
    (r.properties.length < columnMax → r.properties.wordCount < columnMax →
      (isSelected f (ofRecord r) = true ↔ f.accepts r = true)) := by
  refine ⟨isSelected_of_accepts, fun length_lt wordCount_lt => ?_⟩
  rw [isSelected_of_lt length_lt wordCount_lt]

/--
Counts and bounds that no column holds, and such a bound on small counts, with a letter that is in
the text in its other case: the capital `É` is no ASCII.
-/
theorem isSelected_complete_huge :
    let huge : Record := ⟨"", "Éa", ⟨countMax, true, 2, countMax, "", .empty⟩,
      ⟨0, 0, by decide, by decide, by decide⟩⟩
    let small : Record := ⟨"", "Éa", ⟨2, true, 2, 1, "", .empty⟩,
      ⟨0, 0, by decide, by decide, by decide⟩⟩
    isSelected ⟨some true, some countMax, some countMax, some countMax, some 'A'⟩ (ofRecord huge) =
        true ∧
      isSelected ⟨none, none, some countMax, some 1, some 'é'⟩ (ofRecord small) = false ∧
      isSelected ⟨none, none, some countMax, some 1, some 'É'⟩ (ofRecord small) = true := by
  intro huge small
  have selected : ∀ f : Filter, isSelected f (ofRecord small) = true ↔ f.accepts small = true :=
    fun f => (isSelected_complete f small).2 (by decide) (by decide)
  refine ⟨(isSelected_complete _ huge).1 (by decide), ?_, (selected _).mpr (by decide)⟩
  exact Bool.eq_false_iff.mpr (mt (selected _).mp (by decide))

/-! ## Order -/

/-- A time that is not earlier and not later is the same time. -/
theorem createdAt_eq_iff {s t : Instant} : s = t ↔ ¬s < t ∧ ¬t < s := by
  constructor
  · rintro rfl
    rw [Instant.lt_iff]
    omega
  · rw [Instant.lt_iff, Instant.lt_iff]
    intro h
    have seconds : s.seconds = t.seconds := by omega
    have nanos : s.nanos = t.nanos := by omega
    cases s
    cases t
    cases seconds
    cases nanos
    rfl

theorem isBefore_columnText {s t : Instant} (hs : s.HasPlainYear) (ht : t.HasPlainYear) :
    (Cell.text s.columnText).isBefore (.text t.columnText) = decide (s < t) := by
  rw [Cell.isBefore]
  exact decide_eq_decide.mpr (Instant.columnText_lt_iff hs ht)

theorem isBefore_ofRecord {a b : Record} (ha : a.FitsTable) (hb : b.FitsTable) :
    (ofRecord a).createdAt.isBefore (ofRecord b).createdAt =
      decide (a.createdAt < b.createdAt) := by
  rw [createdAt_ofRecord, createdAt_ofRecord]
  exact isBefore_columnText ha.plainYear hb.plainYear

theorem inOrder_ofRecord {a b : Record} (ha : a.FitsTable) (hb : b.FitsTable) :
    inOrder (ofRecord a) (ofRecord b) = Memory.inOrder a b := by
  have same : decide (a.createdAt = b.createdAt) =
      (!decide (a.createdAt < b.createdAt) && !decide (b.createdAt < a.createdAt)) := by
    rw [Bool.eq_iff_iff]
    simp [createdAt_eq_iff]
  rw [inOrder, Memory.inOrder, isBefore_ofRecord ha hb, isBefore_ofRecord hb ha, same]
  show (_ || (_ && decide (a.id ≤ b.id))) = _
  cases decide (a.createdAt < b.createdAt) <;> simp

end Row
end TextCatalog
