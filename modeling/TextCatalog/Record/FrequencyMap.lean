/-!
# TextCatalog.Record.FrequencyMap

How often each character occurs, by character in code point order.

* `insert` — the last count given to a name stands.
* `ofMembers` — from names and counts in any order.
* `tally` — the counts of the characters of a text.
* `get?_insert` — looking up after an insertion.
-/

namespace TextCatalog

/-- Names are texts, so that a map read from elsewhere keeps whatever names it has. -/
structure FrequencyMap where
  entries : List (String × Nat)
  ascending : entries.Pairwise fun a b => a.1 < b.1
  deriving DecidableEq

namespace FrequencyMap

def put (name : String) (count : Nat) : List (String × Nat) → List (String × Nat)
  | [] => [(name, count)]
  | e :: rest =>
    if name < e.1 then (name, count) :: e :: rest
    else if name = e.1 then (name, count) :: rest
    else e :: put name count rest

theorem mem_put {name : String} {count : Nat} {x : String × Nat} {es : List (String × Nat)}
    (h : x ∈ put name count es) : x.1 = name ∨ x ∈ es := by
  induction es with
  | nil =>
    simp only [put, List.mem_singleton] at h
    subst h; exact Or.inl rfl
  | cons e rest ih =>
    simp only [put] at h
    split at h
    · rcases List.mem_cons.mp h with same | old
      · subst same; exact Or.inl rfl
      · exact Or.inr old
    · split at h
      · rcases List.mem_cons.mp h with same | old
        · subst same; exact Or.inl rfl
        · exact Or.inr (List.mem_cons_of_mem _ old)
      · rcases List.mem_cons.mp h with same | old
        · subst same; exact Or.inr List.mem_cons_self
        · rcases ih old with named | old
          · exact Or.inl named
          · exact Or.inr (List.mem_cons_of_mem _ old)

theorem lt_of_not_lt_of_ne {a b : String} (h : ¬a < b) (ne : a ≠ b) : b < a := by
  have : b ≤ a := String.not_lt.mp h
  grind

theorem put_ascending {name : String} {count : Nat} {es : List (String × Nat)}
    (h : es.Pairwise fun a b => a.1 < b.1) :
    (put name count es).Pairwise fun a b => a.1 < b.1 := by
  induction es with
  | nil => exact List.pairwise_singleton _ _
  | cons e rest ih =>
    obtain ⟨below, tail⟩ := List.pairwise_cons.mp h
    simp only [put]
    split
    · rename_i lt
      refine List.pairwise_cons.mpr ⟨?_, h⟩
      intro x mem
      rcases List.mem_cons.mp mem with same | later
      · subst same; exact lt
      · exact String.lt_trans lt (below x later)
    · rename_i not_lt
      split
      · rename_i same
        exact List.pairwise_cons.mpr ⟨fun x mem => same ▸ below x mem, tail⟩
      · rename_i ne
        refine List.pairwise_cons.mpr ⟨?_, ih tail⟩
        intro x mem
        rcases mem_put mem with named | old
        · exact named ▸ lt_of_not_lt_of_ne not_lt ne
        · exact below x old

def empty : FrequencyMap := ⟨[], List.Pairwise.nil⟩

def insert (m : FrequencyMap) (name : String) (count : Nat) : FrequencyMap :=
  ⟨put name count m.entries, put_ascending m.ascending⟩

def get? (m : FrequencyMap) (name : String) : Option Nat :=
  (m.entries.find? fun e => e.1 == name).map (·.2)

def count (m : FrequencyMap) (name : String) : Nat := (m.get? name).getD 0

def names (m : FrequencyMap) : List String := m.entries.map (·.1)

def ofMembers (members : List (String × Nat)) : FrequencyMap :=
  members.foldl (fun m e => m.insert e.1 e.2) empty

def addChar (m : FrequencyMap) (c : Char) : FrequencyMap :=
  m.insert c.toString (m.count c.toString + 1)

def tally (s : List Char) : FrequencyMap := s.foldl addChar empty

theorem find?_put (name other : String) (count : Nat) (es : List (String × Nat)) :
    ((put name count es).find? fun e => e.1 == other).map (·.2) =
      if other = name then some count
      else (es.find? fun e => e.1 == other).map (·.2) := by
  induction es with
  | nil =>
    by_cases h : other = name
    · subst h; simp [put]
    · have h' : name ≠ other := fun e => h e.symm
      simp [put, h, h']
  | cons e rest ih =>
    simp only [put]
    split
    · by_cases h : other = name
      · subst h; simp
      · have h' : name ≠ other := fun e => h e.symm
        simp [h, h']
    · split
      · rename_i same
        by_cases h : other = name
        · subst h; simp
        · have h' : name ≠ other := fun e => h e.symm
          have h'' : e.1 ≠ other := same ▸ h'
          simp [h, h', h'']
      · rename_i ne
        by_cases he : e.1 = other
        · subst he
          have : e.1 ≠ name := fun h => ne h.symm
          simp [this]
        · simp only [List.find?_cons, beq_eq_false_iff_ne.mpr he]
          exact ih

theorem get?_insert (m : FrequencyMap) (name other : String) (count : Nat) :
    (m.insert name count).get? other = if other = name then some count else m.get? other :=
  find?_put name other count m.entries

end FrequencyMap

end TextCatalog
