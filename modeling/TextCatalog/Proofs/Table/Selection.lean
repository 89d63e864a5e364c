import Mathlib.Data.List.Sort
import TextCatalog.Proofs.Table.Decoding
import TextCatalog.Proofs.Text.Utf8
import TextCatalog.Table.Basic

/-!
# TextCatalog.Proofs.Table.Selection

What is selected from a table of any content, and in which order.

* `Row.inOrder_trans`, `Row.inOrder_total` — rows of any content are in some order.
* `Row.Precedes` — by the bytes of the time, then by the bytes of the id.
* `Table.IsTimed` — every time is kept as a text.
* `Table.Lists`, `Table.lists_select` — the rows that a filter selects, in their order.
* `Table.Lists.filter` — where rows are gone, a selection loses these and no more.
-/

namespace TextCatalog

open Text

namespace Cell

variable {a b c : Cell}

theorem isBefore_asymm (h : a.isBefore b = true) : b.isBefore a = false := by
  cases a <;> cases b
  · simp only [isBefore, decide_eq_true_eq, decide_eq_false_iff_not] at h ⊢
    omega
  · rfl
  · cases h
  · simp only [isBefore, decide_eq_true_eq, decide_eq_false_iff_not] at h ⊢
    exact String.lt_asymm h

/-- Of two cells in order the first is before a third one or the third is before the second. -/
theorem isBefore_or (h : a.isBefore c = true) (b : Cell) :
    a.isBefore b = true ∨ b.isBefore c = true := by
  cases a <;> cases c <;> cases b <;> simp only [isBefore, decide_eq_true_eq] at h ⊢
  case number.number.number => omega
  case text.text.text s u t =>
    by_cases before : s < t
    · exact .inl before
    · exact .inr (Std.lt_of_le_of_lt (String.not_lt.mp before) h)
  all_goals simp at h ⊢

end Cell

namespace Row

variable {a b c : Row}

theorem inOrder_iff : inOrder a b = true ↔ a.createdAt.isBefore b.createdAt = true ∨
    b.createdAt.isBefore a.createdAt = false ∧ a.id ≤ b.id := by
  simp [inOrder]

theorem inOrder_trans (hab : inOrder a b = true) (hbc : inOrder b c = true) :
    inOrder a c = true := by
  rw [inOrder_iff] at *
  rcases hab with ab | ⟨ba, ids⟩
  · refine (Cell.isBefore_or ab c.createdAt).imp_right fun cb => ?_
    rcases hbc with bc | ⟨notBefore, _⟩
    · rw [Cell.isBefore_asymm bc] at cb
      cases cb
    · rw [notBefore] at cb
      cases cb
  · rcases hbc with bc | ⟨cb, ids'⟩
    · refine .inl ((Cell.isBefore_or bc a.createdAt).resolve_left fun before => ?_)
      rw [ba] at before
      cases before
    · refine .inr ⟨Bool.eq_false_iff.mpr fun ca => ?_, String.le_trans ids ids'⟩
      rcases Cell.isBefore_or ca b.createdAt with before | before
      · rw [cb] at before
        cases before
      · rw [ba] at before
        cases before

theorem inOrder_total (a b : Row) : (inOrder a b || inOrder b a) = true := by
  rw [Bool.or_eq_true, inOrder_iff, inOrder_iff]
  cases ab : a.createdAt.isBefore b.createdAt with
  | true => exact .inl (.inl rfl)
  | false =>
    cases ba : b.createdAt.isBefore a.createdAt with
    | true => exact .inr (.inl rfl)
    | false =>
      exact (String.le_total a.id b.id).imp (fun ids => .inr ⟨rfl, ids⟩) fun ids => .inr ⟨rfl, ids⟩

theorem bytes_lt_iff {s t : String} : Utf8.encode s.toList < Utf8.encode t.toList ↔ s < t :=
  Utf8.encode_lt_iff s.toList t.toList

/-- By the bytes of the time, then by the bytes of the id. -/
def Precedes (a b : Row) : Prop :=
  ∃ s t, a.createdAt = .text s ∧ b.createdAt = .text t ∧
    (Utf8.encode s.toList < Utf8.encode t.toList ∨
      s = t ∧ Utf8.encode a.id.toList < Utf8.encode b.id.toList)

theorem Precedes.asymm (h : a.Precedes b) : ¬b.Precedes a := by
  obtain ⟨s, t, ha, hb, order⟩ := h
  rintro ⟨t', s', hb', ha', order'⟩
  obtain rfl : s = s' := by simpa using ha.symm.trans ha'
  obtain rfl : t = t' := by simpa using hb.symm.trans hb'
  rw [bytes_lt_iff, bytes_lt_iff] at order order'
  rcases order with before | ⟨rfl, ids⟩
  · rcases order' with after | ⟨rfl, _⟩
    · exact String.lt_asymm before after
    · exact String.lt_irrefl _ before
  · rcases order' with after | ⟨_, ids'⟩
    · exact String.lt_irrefl _ after
    · exact String.lt_asymm ids ids'

instance : Std.Asymm Precedes := ⟨fun _ _ => Precedes.asymm⟩

theorem precedes_of_inOrder (timedA : a.IsTimed) (timedB : b.IsTimed) (ids : a.id ≠ b.id)
    (h : inOrder a b = true) : a.Precedes b := by
  obtain ⟨s, ha⟩ := timedA
  obtain ⟨t, hb⟩ := timedB
  refine ⟨s, t, ha, hb, ?_⟩
  simp only [inOrder_iff, ha, hb, Cell.isBefore, decide_eq_true_eq, decide_eq_false_iff_not] at h
  rw [bytes_lt_iff, bytes_lt_iff]
  rcases h with before | ⟨notAfter, le⟩
  · exact .inl before
  · by_cases before : s < t
    · exact .inl before
    · refine .inr ⟨?_, ?_⟩
      · exact String.le_antisymm (String.not_lt.mp notAfter) (String.not_lt.mp before)
      · exact String.not_le.mp fun ge => ids (String.le_antisymm le ge)

end Row

namespace Table

variable {t t' : Table} {f : Filter} {rows rows' : List Row}

def IsTimed (t : Table) : Prop := ∀ row ∈ t.rows, row.IsTimed

/-- All rows that a filter selects, in their order. -/
structure Lists (t : Table) (f : Filter) (rows : List Row) : Prop where
  mem : ∀ row, row ∈ rows ↔ row ∈ t.rows ∧ row.isSelected f = true
  ordered : rows.Pairwise Row.Precedes

theorem Lists.unique (h : t.Lists f rows) (h' : t.Lists f rows') : rows = rows' :=
  h.ordered.eq_of_mem_iff h'.ordered fun row => (h.mem row).trans (h'.mem row).symm

theorem mem_select {row : Row} :
    row ∈ t.select f ↔ row ∈ t.rows ∧ row.isSelected f = true := by
  rw [select, List.mem_mergeSort, List.mem_filter]

theorem lists_select (timed : t.IsTimed) : t.Lists f (t.select f) := by
  refine ⟨fun row => mem_select, ?_⟩
  have sorted : (t.select f).Pairwise fun a b => a.inOrder b = true :=
    @List.pairwise_mergeSort _ Row.inOrder (fun _ _ _ => Row.inOrder_trans) Row.inOrder_total _
  have apart : (t.select f).Pairwise Row.Apart :=
    (List.mergeSort_perm _ _).symm.pairwise (t.apart.filter _) fun apart =>
      ⟨apart.1.symm, apart.2.symm⟩
  refine (sorted.and apart).imp_of_mem fun ha hb order => ?_
  exact Row.precedes_of_inOrder (timed _ (mem_select.mp ha).1) (timed _ (mem_select.mp hb).1)
    order.2.1 order.1

theorem Lists.filter (h : t.Lists f rows) {p : Row → Bool} (kept : t'.rows = t.rows.filter p) :
    t'.Lists f (rows.filter p) := by
  refine ⟨fun row => ?_, h.ordered.filter p⟩
  rw [List.mem_filter, h.mem, kept, List.mem_filter]
  exact and_right_comm

end Table
end TextCatalog
