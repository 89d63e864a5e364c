import TextCatalog.Table.Row

/-!
# TextCatalog.Proofs.Table.Cell

Texts that a cell keeps as they stand.

* `WrittenNumber.ofText?_of_mem` — no text with a `Z` reads as a number: no part of the reader
  takes that character.
* `Row.createdAt_ofRecord` — so the time of a record is kept as the text that it is written as.
-/

namespace TextCatalog

open Text

namespace WrittenNumber

/-- A text that has the character still has it after the reader. -/
def Leaves {α : Type} (c : Char) (r : Reader α) : Prop :=
  ∀ s a rest, r s = some (a, rest) → c ∈ s → c ∈ rest

theorem Leaves.pure {α : Type} {c : Char} {a : α} : Leaves c (pure a : Reader α) := by
  intro s b rest h mem
  cases h
  exact mem

theorem Leaves.bind {α β : Type} {c : Char} {r : Reader α} {f : α → Reader β}
    (first : Leaves c r) (next : ∀ a, Leaves c (f a)) : Leaves c (r >>= f) := by
  intro s b rest h mem
  obtain ⟨⟨a, mid⟩, taken, h⟩ := Option.bind_eq_some_iff.mp h
  exact next a mid b rest h (first s a mid taken mem)

theorem mem_dropWhile {c : Char} {p : Char → Bool} (no : p c = false) :
    ∀ {s : List Char}, c ∈ s → c ∈ s.dropWhile p
  | d :: s, mem => by
    rw [List.dropWhile_cons]
    split
    · rename_i yes
      cases mem with
      | head => rw [no] at yes; cases yes
      | tail _ mem => exact mem_dropWhile no mem
    · exact mem

theorem skipSpace_leaves : Leaves 'Z' skipSpace := by
  intro s a rest h mem
  cases h
  exact mem_dropWhile rfl mem

theorem digits_leaves : Leaves 'Z' digits := by
  intro s a rest h mem
  cases h
  exact mem_dropWhile rfl mem

theorem minus_leaves : Leaves 'Z' minus := by
  intro s a rest h mem
  unfold minus at h
  split at h <;> cases h
  · cases mem; assumption
  · cases mem; assumption
  · exact mem

theorem point_leaves : Leaves 'Z' point := by
  intro s a rest h mem
  unfold point at h
  split at h
  · rename_i tail
    obtain ⟨r, taken, h⟩ := Option.map_eq_some_iff.mp h
    cases h
    cases mem with
    | tail _ mem => exact digits_leaves tail r.1 r.2 taken mem
  · cases h; exact mem

theorem exponentNumber_leaves : Leaves 'Z' exponentNumber :=
  minus_leaves.bind fun _ => digits_leaves.bind fun ds => by
    cases ds with
    | nil => intro s a rest h; cases h
    | cons d ds => exact Leaves.pure

theorem power_leaves : Leaves 'Z' power := by
  intro s a rest h mem
  unfold power at h
  split at h
  · cases h; exact mem
  · rename_i c tail
    split at h
    · rename_i isMark
      obtain ⟨r, taken, h⟩ := Option.map_eq_some_iff.mp h
      cases h
      cases mem with
      | head => exact absurd isMark (by decide)
      | tail _ mem => exact exponentNumber_leaves tail r.1 r.2 taken mem
    · cases h; exact mem

theorem number_leaves : Leaves 'Z' number :=
  skipSpace_leaves.bind fun _ => minus_leaves.bind fun _ => digits_leaves.bind fun _ =>
    point_leaves.bind fun _ => power_leaves.bind fun _ =>
      skipSpace_leaves.bind fun _ => Leaves.pure

theorem ofText?_of_mem {s : String} (mem : 'Z' ∈ s.toList) : ofText? s = none := by
  unfold ofText? Reader.whole?
  split
  · rename_i w h
    cases number_leaves _ w [] h mem
  · rfl

end WrittenNumber

theorem Row.createdAt_ofRecord (r : Record) :
    (ofRecord r).createdAt = .text r.createdAt.columnText := by
  have mem : 'Z' ∈ r.createdAt.columnText.toList := by
    rw [Instant.columnText, String.toList_ofList]
    exact List.mem_append_right _ (List.mem_singleton.mpr rfl)
  rw [ofRecord, Cell.ofText, WrittenNumber.ofText?_of_mem mem]

theorem Row.timeText_ofRecord (r : Record) :
    timeText (ofRecord r).createdAt = .ok r.createdAt.columnText := by
  rw [createdAt_ofRecord, timeText]

end TextCatalog
