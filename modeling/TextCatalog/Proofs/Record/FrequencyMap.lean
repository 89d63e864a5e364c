import TextCatalog.Proofs.Json.Counts
import TextCatalog.Record.Document

/-!
# TextCatalog.Proofs.Record.FrequencyMap

Frequency maps as lists of entries, as documents and as tallies.

* `mem_entries_iff` — the entries of a map are what can be looked up in it.
* `ofMembers_entries` — a map is made again from its entries.
* `get?_tally_le` — no count in the tally of a text exceeds its length.
* `read_compact` — a map whose counts fit is read back from its text.
* `IsReadFrom`, `read_eq_ok_iff` — any text is read as a map exactly if it is an object of counts.
-/

namespace TextCatalog

namespace FrequencyMap

/-! ## Entries -/

theorem entries_inj {m n : FrequencyMap} (h : m.entries = n.entries) : m = n := by
  cases m
  cases n
  cases h
  rfl

theorem find?_eq_some_iff {es : List (String × Nat)} (h : es.Pairwise fun a b => a.1 < b.1)
    (name : String) (n : Nat) :
    (es.find? fun e => e.1 == name).map (·.2) = some n ↔ (name, n) ∈ es := by
  induction es with
  | nil => simp
  | cons e es ih =>
    obtain ⟨below, tail⟩ := List.pairwise_cons.mp h
    by_cases same : e.1 = name
    · have absent : (name, n) ∉ es := fun mem =>
        String.lt_irrefl name (same ▸ below (name, n) mem)
      rw [List.find?_cons_of_pos (by simp [same]), List.mem_cons]
      constructor
      · intro found
        exact .inl (Prod.ext same.symm (Option.some.inj found).symm)
      · rintro (rfl | mem)
        · rfl
        · exact absurd mem absent
    · rw [List.find?_cons_of_neg (by simp [same]), ih tail, List.mem_cons]
      constructor
      · exact .inr
      · rintro (rfl | mem)
        · exact absurd rfl same
        · exact mem

theorem mem_entries_iff {m : FrequencyMap} {name : String} {n : Nat} :
    (name, n) ∈ m.entries ↔ m.get? name = some n :=
  (find?_eq_some_iff m.ascending name n).symm

theorem put_last {name : String} {count : Nat} {es : List (String × Nat)}
    (h : ∀ e ∈ es, e.1 < name) : put name count es = es ++ [(name, count)] := by
  induction es with
  | nil => rfl
  | cons e es ih =>
    have lt := h e List.mem_cons_self
    have notBelow : ¬name < e.1 := fun gt => String.lt_irrefl _ (String.lt_trans lt gt)
    have notSame : ¬name = e.1 := fun same => String.lt_irrefl name (same ▸ lt)
    rw [put, if_neg notBelow, if_neg notSame, ih fun e mem => h e (List.mem_cons_of_mem _ mem)]
    rfl

theorem foldl_insert_entries (es : List (String × Nat)) (m : FrequencyMap)
    (h : (m.entries ++ es).Pairwise fun a b => a.1 < b.1) :
    (es.foldl (fun m e => m.insert e.1 e.2) m).entries = m.entries ++ es := by
  induction es generalizing m with
  | nil => simp
  | cons e es ih =>
    have last : (m.insert e.1 e.2).entries = m.entries ++ [e] :=
      put_last fun a mem => (List.pairwise_append.mp h).2.2 a mem e List.mem_cons_self
    rw [List.foldl_cons, ih]
    · rw [last, List.append_assoc]; rfl
    · rw [last, List.append_assoc]; exact h

theorem ofMembers_entries (m : FrequencyMap) : ofMembers m.entries = m :=
  entries_inj (foldl_insert_entries m.entries empty m.ascending)

/-! ## Tallies -/

theorem get?_addChar (m : FrequencyMap) (c : Char) (name : String) :
    (m.addChar c).get? name =
      if name = c.toString then some (m.count c.toString + 1) else m.get? name :=
  get?_insert m c.toString name _

/-- No count grows by more than one for a character. -/
theorem get?_foldl_le {s : List Char} {m : FrequencyMap} {k : Nat}
    (h : ∀ name n, m.get? name = some n → n ≤ k) :
    ∀ name n, (s.foldl addChar m).get? name = some n → n ≤ k + s.length := by
  induction s generalizing m k with
  | nil => exact h
  | cons c s ih =>
    intro name n found
    have step : ∀ name n, (m.addChar c).get? name = some n → n ≤ k + 1 := by
      intro name n found
      rw [get?_addChar] at found
      split at found
      · cases found
        cases hc : m.get? c.toString with
        | none =>
          simp only [count, hc, Option.getD_none]
          omega
        | some i =>
          have := h _ _ hc
          simp only [count, hc, Option.getD_some]
          omega
      · have := h name n found
        omega
    have := ih step name n found
    rw [List.length_cons]
    omega

theorem get?_tally_le {s : List Char} {name : String} {n : Nat}
    (h : (tally s).get? name = some n) : n ≤ s.length := by
  have := get?_foldl_le (m := empty) (k := 0) (by intro name n found; cases found) name n h
  omega

/-! ## Documents -/

theorem ofJson?_toJson {m : FrequencyMap} (h : ∀ e ∈ m.entries, e.2 < Text.counts) :
    ofJson? m.toJson = some m := by
  have entries : ((m.entries.map fun e => (e.1, Json.ofNat e.2)).map
      fun m => (some m.1, m.2)).mapM memberOf? = some m.entries := by
    rw [List.map_map]
    refine mapM_map_pure (m := Option) fun e mem => ?_
    simp only [Function.comp_apply, memberOf?, Json.toCount?_ofNat (h e mem)]
    rfl
  rw [toJson, Json.object, ofJson?, entries, Option.map_some, ofMembers_entries]

theorem isPlain_toJson (m : FrequencyMap) : m.toJson.IsPlain := by
  refine Json.isPlain_object fun e mem => ?_
  obtain ⟨e, _, rfl⟩ := List.mem_map.mp mem
  exact ⟨e.2, rfl⟩

/-- A map whose counts fit is read back from its text. -/
theorem read_compact {m : FrequencyMap} (h : ∀ e ∈ m.entries, e.2 < Text.counts) :
    read m.compact.toList = .ok m := by
  have document : m.toJson = .obj (Json.countMembers m.entries) := by
    rw [toJson, Json.object, List.map_map]
    rfl
  rw [read, compact, Json.compact, String.toList_ofList, document, Json.readCounts_print h]
  exact congrArg Except.ok (ofMembers_entries m)

/-- The text is one object of counts. Of a name that it gives twice the map has the last count. -/
def IsReadFrom (m : FrequencyMap) (s : String) : Prop :=
  ∃ members rest es, Json.Begins false 1 s.toList (.value (.obj members)) rest ∧
    Json.skipSpace rest = [] ∧ List.Forall₂ Json.IsCountOf members es ∧ ofMembers es = m

theorem read_eq_ok_iff {s : String} {m : FrequencyMap} :
    read s.toList = .ok m ↔ m.IsReadFrom s := by
  have made : read s.toList = .ok m ↔
      ∃ es, Json.readCounts s.toList = .ok es ∧ ofMembers es = m := by
    unfold read
    cases Json.readCounts s.toList <;> simp [Except.map]
  simp only [made, Json.readCounts_eq_ok_iff]
  constructor
  · rintro ⟨es, ⟨members, rest, begins, whole, counts⟩, same⟩
    exact ⟨members, rest, es, begins, whole, counts, same⟩
  · rintro ⟨members, rest, es, begins, whole, counts, same⟩
    exact ⟨es, ⟨members, rest, begins, whole, counts⟩, same⟩

end FrequencyMap
end TextCatalog
