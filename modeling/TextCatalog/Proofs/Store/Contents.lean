import Mathlib.Data.List.Induction
import Mathlib.Data.List.Sort
import TextCatalog.Proofs.Table.Row
import TextCatalog.Store.Memory

/-!
# TextCatalog.Proofs.Store.Contents

A memory answers from what it holds, whatever led to it and in whatever order it is kept.

* `recorded` — what a history leaves under an id: the first record put there since the id was last
  removed.
* `Leads` — a history leads from one memory to another; the order of the records may change at any
  time, and no promise is made about it.
* `AnswersBy` — every answer of a memory, told by the record that is held under each id.
* `leads_answers` — a history leads to a memory that answers by what the history has recorded.
-/

namespace TextCatalog

/-! ## Keys -/

/-- Where no two members share a key, the one that is found under a key is the one that has it. -/
theorem find?_key_eq_some_iff {α : Type} {key : α → String} {xs : List α}
    (distinct : (xs.map key).Nodup) {k : String} {x : α} :
    (xs.find? fun a => key a == k) = some x ↔ x ∈ xs ∧ key x = k := by
  have named : ∀ a, (xs.find? fun a => key a == k) = some a → key a = k := fun a found =>
    beq_iff_eq.mp (List.find?_some (p := fun a => key a == k) found)
  constructor
  · intro found
    exact ⟨List.mem_of_find?_eq_some found, named x found⟩
  · rintro ⟨mem, same⟩
    cases found : xs.find? fun a => key a == k with
    | none => exact absurd (beq_iff_eq.mpr same) (List.find?_eq_none.mp found x mem)
    | some a =>
      have held := List.mem_of_find?_eq_some found
      rw [List.inj_on_of_nodup_map distinct held mem ((named a found).trans same.symm)]

/-! ## The order of records -/

namespace Instant

variable {s t u : Instant}

theorem lt_trans (h : s < t) (h' : t < u) : s < u := by
  rw [lt_iff] at *
  omega

theorem lt_asymm (h : s < t) : ¬t < s := by
  rw [lt_iff] at *
  omega

theorem lt_trichotomy (s t : Instant) : s < t ∨ s = t ∨ t < s := by
  by_cases before : s < t
  · exact .inl before
  · by_cases after : t < s
    · exact .inr (.inr after)
    · exact .inr (.inl (Row.createdAt_eq_iff.mpr ⟨before, after⟩))

end Instant

/-- Older, or of the same age and with the smaller id. -/
def Record.Precedes (a b : Record) : Prop :=
  a.createdAt < b.createdAt ∨ a.createdAt = b.createdAt ∧ a.id < b.id

theorem Record.Precedes.asymm {a b : Record} (h : a.Precedes b) : ¬b.Precedes a := by
  rintro (after | ⟨same, after⟩)
  · rcases h with before | ⟨same, _⟩
    · exact Instant.lt_asymm before after
    · rw [same] at after
      exact Instant.lt_asymm after after
  · rcases h with before | ⟨_, before⟩
    · rw [same] at before
      exact Instant.lt_asymm before before
    · exact String.lt_asymm before after

instance : Std.Asymm Record.Precedes := ⟨fun _ _ => Record.Precedes.asymm⟩

namespace Memory

variable {m m' : Memory} {id : String} {r : Record}

theorem inOrder_iff {a b : Record} : inOrder a b = true ↔
    a.createdAt < b.createdAt ∨ a.createdAt = b.createdAt ∧ a.id ≤ b.id := by
  simp [inOrder]

theorem inOrder_trans (a b c : Record) (h : inOrder a b = true) (h' : inOrder b c = true) :
    inOrder a c = true := by
  rw [inOrder_iff] at *
  rcases h with before | ⟨same, le⟩
  · rcases h' with before' | ⟨same', _⟩
    · exact .inl (Instant.lt_trans before before')
    · exact .inl (same' ▸ before)
  · rcases h' with before' | ⟨same', le'⟩
    · exact .inl (same ▸ before')
    · exact .inr ⟨same.trans same', String.le_trans le le'⟩

theorem inOrder_total (a b : Record) : (inOrder a b || inOrder b a) = true := by
  rw [Bool.or_eq_true, inOrder_iff, inOrder_iff]
  rcases Instant.lt_trichotomy a.createdAt b.createdAt with before | same | after
  · exact .inl (.inl before)
  · rcases String.le_total a.id b.id with le | ge
    · exact .inl (.inr ⟨same, le⟩)
    · exact .inr (.inr ⟨same.symm, ge⟩)
  · exact .inr (.inl after)

theorem precedes_of_inOrder {a b : Record} (h : inOrder a b = true) (apart : a.id ≠ b.id) :
    a.Precedes b := by
  rcases inOrder_iff.mp h with before | ⟨same, le⟩
  · exact .inl before
  · refine .inr ⟨same, String.not_le.mp fun ge => ?_⟩
    exact apart (String.le_antisymm le ge)

/-! ## Looking up -/

theorem find?_eq_some_iff : m.find? id = some r ↔ r ∈ m.records ∧ r.id = id :=
  find?_key_eq_some_iff (List.pairwise_map.mpr m.distinct)

theorem mem_records_iff : r ∈ m.records ↔ m.find? r.id = some r := by
  rw [find?_eq_some_iff]
  exact ⟨fun mem => ⟨mem, rfl⟩, fun h => h.1⟩

theorem has_eq (m : Memory) (id : String) : m.has id = (m.find? id).isSome := by
  rw [has, find?, List.isSome_find?]

/-- What is held under an id does not depend on the order of the records. -/
theorem find?_perm (h : m.records.Perm m'.records) (id : String) : m'.find? id = m.find? id := by
  refine Option.ext fun r => ?_
  rw [find?_eq_some_iff, find?_eq_some_iff, h.mem_iff]

/-! ## Queries -/

theorem mem_query_iff {f : Filter} :
    r ∈ m.query f ↔ m.find? r.id = some r ∧ f.accepts r = true := by
  rw [query, List.mem_mergeSort, List.mem_filter, mem_records_iff]

/-- No two ids are the same, so that the order leaves no choice. -/
theorem query_pairwise (m : Memory) (f : Filter) : (m.query f).Pairwise Record.Precedes := by
  have ordered := List.pairwise_mergeSort inOrder_trans inOrder_total (m.records.filter f.accepts)
  have distinct : (m.query f).Pairwise fun a b => a.id ≠ b.id :=
    ((List.mergeSort_perm _ inOrder).pairwise_iff fun apart => apart.symm).mpr (m.distinct.filter _)
  exact (ordered.and distinct).imp fun h => precedes_of_inOrder h.1 h.2

theorem query_eq_of_find? (same : ∀ id, m.find? id = m'.find? id) (f : Filter) :
    m.query f = m'.query f := by
  refine (query_pairwise m f).eq_of_mem_iff (query_pairwise m' f) fun r => ?_
  rw [mem_query_iff, mem_query_iff, same]

theorem length_query (m : Memory) (f : Filter) :
    (m.query f).length = (m.records.filter f.accepts).length :=
  (List.mergeSort_perm _ _).length_eq

theorem length_query_empty (m : Memory) : (m.query Filter.empty).length = m.records.length := by
  have all : m.records.filter Filter.empty.accepts = m.records :=
    List.filter_eq_self.mpr fun r _ => Filter.accepts_empty r
  rw [length_query, all]

theorem length_query_palindrome (m : Memory) :
    (m.query { isPalindrome := some true }).length = m.stats.palindromes := by
  have flagged : ∀ r : Record,
      Filter.accepts { isPalindrome := some true } r = r.properties.isPalindrome := by
    intro r
    simp [Filter.accepts, Filter.onField]
  rw [length_query, funext flagged]
  rfl

end Memory

namespace Store

/-! ## Histories -/

/-- Whether an operation ends what is held under an id. -/
def Operation.removes (id : String) : Operation → Bool
  | .delete other => other == id
  | .clear => true
  | _ => false

/-- The record that an operation brings for an id. -/
def Operation.offers? (id : String) : Operation → Option Record
  | .put r => if r.id = id then some r else none
  | _ => none

/-- The operations after the last one that removes the id. -/
def sinceRemoval (id : String) (ops : List Operation) : List Operation :=
  (ops.reverse.takeWhile fun op => !op.removes id).reverse

/-- The first record put under an id stays there until the id is removed. -/
def recorded (ops : List Operation) (id : String) : Option Record :=
  (sinceRemoval id ops).findSome? fun op => op.offers? id

theorem recorded_snoc (ops : List Operation) (op : Operation) (id : String) :
    recorded (ops ++ [op]) id =
      if op.removes id then none else (recorded ops id).or (op.offers? id) := by
  unfold recorded sinceRemoval
  rw [List.reverse_append, List.reverse_singleton, List.singleton_append, List.takeWhile_cons]
  cases removed : op.removes id with
  | true => rfl
  | false => simp

/-! ## Steps -/

variable {m m' start : Memory} {id : String} {ops : List Operation} {rs : List Record}

theorem find?_cons {r : Record} (free : m.has r.id = false) (id : String) :
    Memory.find? ⟨r :: m.records, Memory.cons_distinct free⟩ id =
      if r.id = id then some r else m.find? id := by
  show (r :: m.records).find? _ = _
  rw [List.find?_cons]
  by_cases same : r.id = id
  · rw [if_pos same, beq_iff_eq.mpr same]
  · rw [if_neg same, beq_eq_false_iff_ne.mpr same]
    rfl

theorem find?_erase (m : Memory) (other id : String) :
    (m.erase other).find? id = if other = id then none else m.find? id := by
  refine Option.ext fun r => ?_
  rw [Memory.find?_eq_some_iff]
  show r ∈ m.records.filter (fun r => r.id != other) ∧ r.id = id ↔ _
  rw [List.mem_filter, bne_iff_ne]
  by_cases same : other = id
  · rw [if_pos same]
    simp [same]
  · rw [if_neg same, Memory.find?_eq_some_iff]
    constructor
    · rintro ⟨⟨mem, _⟩, named⟩
      exact ⟨mem, named⟩
    · rintro ⟨mem, rfl⟩
      exact ⟨⟨mem, fun named => same named.symm⟩, rfl⟩

/-- One operation changes what is held under an id as it changes what is recorded there. -/
theorem find?_step (m : Memory) (op : Operation) (id : String) :
    (step m op).2.find? id =
      if op.removes id then none else (m.find? id).or (op.offers? id) := by
  cases op with
  | put r =>
    show (settle m (m.put r)).2.find? id = (m.find? id).or (if r.id = id then some r else none)
    cases taken : m.has r.id with
    | true =>
      rw [Memory.put, dif_neg (by rw [taken]; decide), settle]
      by_cases same : r.id = id
      · subst same
        rw [Memory.has_eq] at taken
        rw [Option.or_of_isSome taken]
      · rw [if_neg same, Option.or_none]
    | false =>
      rw [Memory.put, dif_pos taken, settle, find?_cons taken]
      by_cases same : r.id = id
      · subst same
        rw [Memory.has_eq, Option.isSome_eq_false_iff, Option.isNone_iff_eq_none] at taken
        rw [taken, if_pos rfl, Option.none_or]
      · rw [if_neg same, if_neg same, Option.or_none]
  | delete other =>
    show (m.erase other).find? id = if other == id then none else (m.find? id).or none
    rw [find?_erase, Option.or_none]
    simp
  | clear => rfl
  | _ => exact (Option.or_none).symm

theorem run_snoc (m : Memory) (ops : List Operation) (op : Operation) :
    (run m (ops ++ [op])).2 = (step (run m ops).2 op).2 := by
  induction ops generalizing m with
  | nil => rfl
  | cons first ops ih => exact ih (step m first).2

theorem find?_ofRecords (rs : List Record) (id : String) :
    (Memory.ofRecords rs).find? id = recorded (rs.map .put) id := by
  induction rs using List.reverseRecOn with
  | nil => rfl
  | append_singleton rs r ih =>
    have last : Memory.ofRecords (rs ++ [r]) = (step (Memory.ofRecords rs) (.put r)).2 := by
      rw [Memory.ofRecords, fill, List.foldl_append]
      rfl
    rw [last, find?_step, ih, List.map_append, List.map_singleton, recorded_snoc]

/-! ## Runs in any order of the records -/

/-- Between two operations the records may come to stand in any other order. -/
inductive Leads (start : Memory) : List Operation → Memory → Prop where
  | start {m : Memory} (same : start.records.Perm m.records) : Leads start [] m
  | step {ops : List Operation} {op : Operation} {m m' : Memory} (before : Leads start ops m)
    (same : (step m op).2.records.Perm m'.records) : Leads start (ops ++ [op]) m'

theorem leads_run (start : Memory) (ops : List Operation) : Leads start ops (run start ops).2 := by
  induction ops using List.reverseRecOn with
  | nil => exact .start (.refl _)
  | append_singleton ops op ih =>
    rw [run_snoc]
    exact .step ih (.refl _)

theorem Leads.find?_eq (h : Leads (Memory.ofRecords rs) ops m) (id : String) :
    m.find? id = recorded (rs.map .put ++ ops) id := by
  induction h with
  | start same => rw [Memory.find?_perm same, find?_ofRecords, List.append_nil]
  | step _ same ih =>
    rw [Memory.find?_perm same, find?_step, ih, ← List.append_assoc, recorded_snoc]

/-! ## Answers -/

/-- The answers of a memory that holds the given record, or none, under each id. -/
structure AnswersBy (held : String → Option Record) (m : Memory) : Prop where
  get : ∀ id, (step m (.get id)).1 = .ok (.found (held id))
  has : ∀ id, (step m (.has id)).1 = .ok (.flag (held id).isSome)
  delete : ∀ id, (step m (.delete id)).1 = .ok (.flag (held id).isSome)
  put : ∀ r, (step m (.put r)).1 =
    if (held r.id).isSome then .error (.alreadyExists r.id) else .ok .done
  ids : ∃ ids, (step m .ids).1 = .ok (.ids ids) ∧ ids.Nodup ∧ ∀ id, id ∈ ids ↔ (held id).isSome
  query : ∀ f, ∃ rs, (step m (.query f)).1 = .ok (.records rs) ∧
    (∀ r, r ∈ rs ↔ held r.id = some r ∧ f.accepts r = true) ∧ rs.Pairwise Record.Precedes
  count : ∃ ids rs n, (step m .ids).1 = .ok (.ids ids) ∧
    (step m (.query Filter.empty)).1 = .ok (.records rs) ∧ (step m .count).1 = .ok (.count n) ∧
    n = ids.length ∧ n = rs.length
  stats : ∃ rs n, (step m (.query { isPalindrome := some true })).1 = .ok (.records rs) ∧
    (step m .count).1 = .ok (.count n) ∧ (step m .stats).1 = .ok (.stats ⟨n, rs.length⟩)

theorem step_put (m : Memory) (r : Record) : (step m (.put r)).1 =
    if (m.find? r.id).isSome then .error (.alreadyExists r.id) else .ok .done := by
  rw [← Memory.has_eq]
  show (settle m (m.put r)).1 = _
  unfold Memory.put
  split
  · rename_i free
    rw [free]
    rfl
  · rename_i taken
    rw [Bool.not_eq_false _ |>.mp taken]
    rfl

theorem mem_ids_iff : id ∈ m.records.map (·.id) ↔ (m.find? id).isSome := by
  rw [← Memory.has_eq, Memory.has, List.any_eq_true, List.mem_map]
  simp only [beq_iff_eq]

theorem answersBy_find? (m : Memory) : AnswersBy m.find? m where
  get _ := rfl
  has id := congrArg (fun b => Except.ok (Outcome.flag b)) (m.has_eq id)
  delete id := congrArg (fun b => Except.ok (Outcome.flag b)) (m.has_eq id)
  put := step_put m
  ids := ⟨_, rfl, List.pairwise_map.mpr m.distinct, fun _ => mem_ids_iff⟩
  query f := ⟨m.query f, rfl, fun _ => Memory.mem_query_iff, Memory.query_pairwise m f⟩
  count := ⟨_, _, _, rfl, rfl, rfl, (List.length_map _).symm, (Memory.length_query_empty m).symm⟩
  stats := ⟨_, _, rfl, rfl, congrArg (fun n => Except.ok (Outcome.stats ⟨m.records.length, n⟩))
    (Memory.length_query_palindrome m).symm⟩

/--
A history on a memory filled with any records leads to one that answers by what is recorded, and
two histories that leave the same records give the same lists to every query.
-/
theorem leads_answers (h : Leads (Memory.ofRecords rs) ops m) :
    AnswersBy (recorded (rs.map .put ++ ops)) m ∧
      ∀ rs' ops' m', Leads (Memory.ofRecords rs') ops' m' →
        (∀ id, (step m (.get id)).1 = (step m' (.get id)).1) →
        ∀ f, (step m (.query f)).1 = (step m' (.query f)).1 := by
  constructor
  · rw [← funext h.find?_eq]
    exact answersBy_find? m
  · intro _ _ m' _ same f
    have held : ∀ id, m.find? id = m'.find? id := fun id =>
      Outcome.found.inj (Except.ok.inj (same id))
    exact congrArg (fun rs => Except.ok (Outcome.records rs)) (Memory.query_eq_of_find? held f)

/-- A record under a chosen id, of the time at which all times start. -/
def undated (id value : String) : Record :=
  ⟨id, value, ⟨0, true, 0, 0, "", FrequencyMap.empty⟩, .epoch⟩

/-- Of two records under one id the first one stays; the order in which they are kept is changed. -/
theorem leads_answers_rearranged :
    let m : Memory := ⟨[undated "b" "noon", undated "a" "stats"], by decide⟩
    let m' := (run Memory.empty [.put (undated "a" "stats"), .put (undated "b" "noon")]).2
    Leads (Memory.ofRecords [undated "b" "noon", undated "b" "level"])
        [.put (undated "a" "stats")] m ∧
      (step m (.get "b")).1 = .ok (.found (some (undated "b" "noon"))) ∧
      ∀ f, (step m (.query f)).1 = (step m' (.query f)).1 := by
  intro m m'
  have leads : Leads (Memory.ofRecords [undated "b" "noon", undated "b" "level"])
      [.put (undated "a" "stats")] m :=
    .step (.start (.refl _)) (List.Perm.swap _ _ _)
  have leads' : Leads (Memory.ofRecords []) _ m' := leads_run _ _
  obtain ⟨answers, same⟩ := leads_answers leads
  refine ⟨leads, answers.get "b", same _ _ _ leads' fun id => ?_⟩
  rfl

end Store
end TextCatalog
