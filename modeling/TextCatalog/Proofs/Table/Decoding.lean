import TextCatalog.Proofs.Record.FrequencyMap
import TextCatalog.Proofs.Traversal
import TextCatalog.Table.Row

/-!
# TextCatalog.Proofs.Table.Decoding

Rows of any content, whoever wrote it, as records.

* `Row.Reads` — the record that a row stands for.
* `Row.errorOf?` — why a column holds what no record has there, as its content says.
* `Row.FirstBad` — the column that is reported, with its reason.
* `Row.toRecord_eq_ok_iff`, `Row.toRecord_eq_error_iff` — a row gives its record, and one whose
  time is a text gives the reason of its first bad column otherwise.
-/

namespace TextCatalog
namespace Row

variable {row : Row} {r : Record} {s : String}

/-- The columns that are not kept as they are. -/
inductive Column where
  | length
  | uniqueCharacters
  | wordCount
  | frequencies
  | createdAt
  deriving DecidableEq

/-- In the order in which they are read. -/
def Column.all : List Column := [length, uniqueCharacters, wordCount, frequencies, createdAt]

/-- The time is kept as a text. -/
def IsTimed (row : Row) : Prop := ∃ s, row.createdAt = .text s

def timeText? (row : Row) : Option String :=
  match row.createdAt with
  | .text s => some s
  | .number _ => none

/-! ## Bad columns -/

def negative? (column : String) (n : Int) : Option TableError :=
  if n < 0 then some (.invalidData ("negative " ++ column ++ ": " ++ toString n)) else none

/-- The first fault of a text that is no object of counts. -/
def unreadable? (text : String) : Option TableError :=
  match FrequencyMap.read text.toList with
  | .ok _ => none
  | .error f => some (.json (f.report text.toList))

/-- The first flaw of a text that is no time. -/
def untimely? : Cell → Option TableError
  | .text s =>
    match Instant.ofStrictText s with
    | .ok _ => none
    | .error flaw => some (.invalidData ("invalid datetime '" ++ s ++ "': " ++ flaw.text))
  | .number n => some (.ofEngine (.numericTime n.kind))

/-- What is wrong with a column, if no record has there what it holds. -/
def errorOf? (row : Row) : Column → Option TableError
  | .length => negative? "length" row.length
  | .uniqueCharacters => negative? "unique_characters" row.uniqueCharacters
  | .wordCount => negative? "word_count" row.wordCount
  | .frequencies => unreadable? row.frequencies
  | .createdAt => untimely? row.createdAt

def Decodes (row : Row) : Prop := ∀ c ∈ Column.all, row.errorOf? c = none

instance : DecidablePred Decodes := fun row =>
  inferInstanceAs (Decidable (∀ c ∈ Column.all, row.errorOf? c = none))

/-- All columns before it hold what a record can have. -/
def FirstBad (row : Row) (c : Column) (e : TableError) : Prop :=
  ∃ before after, Column.all = before ++ c :: after ∧
    (∀ b ∈ before, row.errorOf? b = none) ∧ row.errorOf? c = some e

/-- A record has what the columns of a row say. Any flag that is not zero counts as set. -/
structure Reads (row : Row) (r : Record) : Prop where
  id : r.id = row.id
  value : r.value = row.value
  length : (r.properties.length : Int) = row.length
  isPalindrome : r.properties.isPalindrome = true ↔ row.isPalindrome ≠ 0
  uniqueCharacters : (r.properties.uniqueCharacters : Int) = row.uniqueCharacters
  wordCount : (r.properties.wordCount : Int) = row.wordCount
  sha256Hash : r.properties.sha256Hash = row.sha256Hash
  frequencies : r.properties.frequencies.IsReadFrom row.frequencies
  createdAt : row.timeText?.bind Instant.ofStrictText? = some r.createdAt

/-! ## Columns -/

theorem toCount_eq_ok_iff {column : String} {n : Int} {k : Nat} :
    toCount column n = .ok k ↔ (k : Int) = n := by
  cases n with
  | ofNat n =>
    show Except.ok n = Except.ok k ↔ (k : Int) = (n : Int)
    rw [Except.ok.injEq, Int.natCast_inj, eq_comm]
  | negSucc n => simp [toCount, countOfColumn, Except.mapError]

theorem toOption_eq_some_iff {ε α : Type} {x : Except ε α} {a : α} :
    x.toOption = some a ↔ x = .ok a := by
  cases x <;> simp [Except.toOption]

theorem toFrequencies_eq_ok_iff {text : String} {m : FrequencyMap} :
    toFrequencies text = .ok m ↔ m.IsReadFrom text :=
  mapError_eq_ok_iff.trans FrequencyMap.read_eq_ok_iff

theorem toTime_eq_ok_iff {text : String} {t : Instant} :
    toTime text = .ok t ↔ Instant.ofStrictText? text = some t :=
  mapError_eq_ok_iff.trans (mapError_eq_ok_iff.trans toOption_eq_some_iff.symm)

theorem timeText_eq_ok_iff {c : Cell} : timeText c = .ok s ↔ c = .text s := by
  cases c <;> simp [timeText]

theorem timeText?_eq_some_iff : row.timeText? = some s ↔ row.createdAt = .text s := by
  unfold timeText?
  cases row.createdAt <;> simp

theorem toRecord_eq_ok_iff : row.toRecord = .ok r ↔ row.Reads r := by
  constructor
  · intro h
    obtain ⟨time, text, h⟩ := bind_eq_ok h
    obtain ⟨length, first, h⟩ := bind_eq_ok h
    obtain ⟨unique, second, h⟩ := bind_eq_ok h
    obtain ⟨words, third, h⟩ := bind_eq_ok h
    obtain ⟨frequencies, fourth, h⟩ := bind_eq_ok h
    obtain ⟨createdAt, fifth, h⟩ := bind_eq_ok h
    cases h
    refine ⟨rfl, rfl, toCount_eq_ok_iff.mp first, by simp, toCount_eq_ok_iff.mp second,
      toCount_eq_ok_iff.mp third, rfl, toFrequencies_eq_ok_iff.mp fourth, ?_⟩
    rw [timeText?, timeText_eq_ok_iff.mp text]
    exact toTime_eq_ok_iff.mp fifth
  · intro h
    obtain ⟨time, text, read⟩ := Option.bind_eq_some_iff.mp h.createdAt
    have text : timeText row.createdAt = .ok time :=
      timeText_eq_ok_iff.mpr (timeText?_eq_some_iff.mp text)
    have first : toCount "length" row.length = .ok _ := toCount_eq_ok_iff.mpr h.length
    have second : toCount "unique_characters" row.uniqueCharacters = .ok _ :=
      toCount_eq_ok_iff.mpr h.uniqueCharacters
    have third : toCount "word_count" row.wordCount = .ok _ := toCount_eq_ok_iff.mpr h.wordCount
    have flag : (row.isPalindrome != 0) = r.properties.isPalindrome := by
      rw [Bool.eq_iff_iff, h.isPalindrome, bne_iff_ne]
    simp only [toRecord, text, first, second, third, toFrequencies_eq_ok_iff.mpr h.frequencies,
      toTime_eq_ok_iff.mpr read, flag, ← h.id, ← h.value, ← h.sha256Hash, bind, Except.bind]
    rfl

/-! ## The first bad column -/

/-- A check that fails for the reason there is, if there is one. -/
def failing (reason : Option TableError) : Except TableError Unit :=
  match reason with
  | some e => .error e
  | none => .ok ()

theorem failing_eq_error_iff {reason : Option TableError} {e : TableError} :
    failing reason = .error e ↔ reason = some e := by
  cases reason <;> simp [failing]

theorem failing_eq_ok_iff {reason : Option TableError} :
    (∃ u, failing reason = .ok u) ↔ reason = none := by
  cases reason <;> simp [failing]

theorem checkOf_toCount (column : String) (n : Int) :
    checkOf (toCount column n) = failing (negative? column n) := by
  cases n with
  | ofNat n => rfl
  | negSucc n =>
    rw [negative?, if_pos (Int.negSucc_lt_zero n)]
    rfl

theorem checkOf_toFrequencies (text : String) :
    checkOf (toFrequencies text) = failing (unreadable? text) := by
  unfold toFrequencies unreadable?
  cases FrequencyMap.read text.toList <;> rfl

theorem checkOf_toTime (text : String) :
    checkOf (toTime text) = failing (untimely? (.text text)) := by
  unfold toTime timeOfColumn untimely?
  dsimp only
  cases Instant.ofStrictText text <;> rfl

/-- A row whose time is a text is checked column by column. -/
theorem checkOf_toRecord (h : row.IsTimed) : checkOf row.toRecord =
    checkOf (Column.all.mapM fun c => failing (row.errorOf? c)) := by
  obtain ⟨time, text⟩ := h
  rw [toRecord, timeText_eq_ok_iff.mpr text]
  show checkOf (toCount "length" row.length >>= _) = _
  refine checkOf_bind (checkOf_toCount "length" row.length) fun _ => ?_
  refine checkOf_bind (checkOf_toCount "unique_characters" row.uniqueCharacters) fun _ => ?_
  refine checkOf_bind (checkOf_toCount "word_count" row.wordCount) fun _ => ?_
  refine checkOf_bind (checkOf_toFrequencies row.frequencies) fun _ => ?_
  have checked : checkOf (toTime time) = failing (row.errorOf? .createdAt) := by
    rw [errorOf?, text]
    exact checkOf_toTime time
  refine checkOf_bind checked fun _ => ?_
  rfl

theorem toRecord_eq_error_iff (h : row.IsTimed) {e : TableError} :
    row.toRecord = .error e ↔ ∃ c, row.FirstBad c e := by
  rw [← checkOf_eq_error_iff, checkOf_toRecord h, checkOf_eq_error_iff, mapM_eq_error_iff]
  simp only [failing_eq_ok_iff, failing_eq_error_iff, FirstBad]
  constructor
  · rintro ⟨before, c, after, order, fine, bad⟩
    exact ⟨c, before, after, order, fine, bad⟩
  · rintro ⟨c, before, after, order, fine, bad⟩
    exact ⟨before, c, after, order, fine, bad⟩

theorem exists_toRecord_iff (h : row.IsTimed) :
    (∃ r, row.toRecord = .ok r) ↔ row.Decodes := by
  rw [← checkOf_eq_ok_iff, checkOf_toRecord h, checkOf_eq_ok_iff, exists_mapM_eq_ok_iff]
  simp only [failing_eq_ok_iff, Decodes]

end Row
end TextCatalog
