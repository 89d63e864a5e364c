import TextCatalog.Json.Fields
import TextCatalog.Proofs.Json.RoundTrip

/-!
# TextCatalog.Proofs.Json.Fields

Objects whose members are named fields, some of which are left out.

* `membersOf` — the members of the fields that have a value.
* `fields?_object` — each field is found again, and those left out are known to be missing.
* `optional_map` — a value that may be left out is read back.
-/

namespace TextCatalog

/-- Reading item by item what was written item by item. -/
theorem mapM_map_of_forall {m : Type → Type} [Monad m] [LawfulMonad m] {α β γ : Type}
    {f : α → m γ} {g : β → α} {k : β → γ} {l : List β} (h : ∀ b ∈ l, f (g b) = pure (k b)) :
    (l.map g).mapM f = pure (l.map k) := by
  induction l with
  | nil => rfl
  | cons b l ih =>
    rw [List.map_cons, List.mapM_cons, h b List.mem_cons_self,
      ih fun b mem => h b (List.mem_cons_of_mem _ mem)]
    simp

theorem mapM_map_pure {m : Type → Type} [Monad m] [LawfulMonad m] {α β : Type} {f : α → m β}
    {g : β → α} {l : List β} (h : ∀ b ∈ l, f (g b) = pure b) : (l.map g).mapM f = pure l := by
  rw [mapM_map_of_forall (k := id) h, List.map_id]

namespace Json

open Text

/-! ## Objects -/

/-- The members of the fields that have a value. -/
def membersOf (fields : List (String × Option Json)) : List (String × Json) :=
  fields.filterMap fun f => f.2.map fun j => (f.1, j)

theorem membersOf_cons {α : Type} (name : String) (write : α → Json) (value : Option α)
    (rest : List (String × Option Json)) :
    membersOf ((name, value.map write) :: rest) =
      optionalMember name write value ++ membersOf rest := by
  cases value <;> rfl

theorem membersOf_nil : membersOf [] = [] := rfl

theorem isPlain_object {members : List (String × Json)} (h : ∀ m ∈ members, m.2.IsPlain) :
    (object members).IsPlain := by
  rw [object, IsPlain]
  induction members with
  | nil => trivial
  | cons m members ih =>
    exact ⟨rfl, h m List.mem_cons_self, ih fun m mem => h m (List.mem_cons_of_mem _ mem)⟩

theorem isPlain_membersOf (fields : List (String × Option Json))
    (h : ∀ f ∈ fields, ∀ j ∈ f.2, j.IsPlain) : (object (membersOf fields)).IsPlain := by
  refine isPlain_object fun m mem => ?_
  obtain ⟨f, inside, written⟩ := List.mem_filterMap.mp mem
  obtain ⟨j, value, rfl⟩ := Option.map_eq_some_iff.mp written
  exact h f inside j value

theorem named_membersOf_cons (name : String) (f : String × Option Json)
    (rest : List (String × Option Json)) :
    named name ((membersOf (f :: rest)).map fun m => (some m.1, m.2)) =
      (if f.1 = name then f.2.toList else []) ++
        named name ((membersOf rest).map fun m => (some m.1, m.2)) := by
  obtain ⟨other, value⟩ := f
  cases value with
  | none => by_cases same : other = name <;> simp [membersOf, named, same]
  | some j => by_cases same : other = name <;> simp [membersOf, named, same]

theorem named_membersOf_absent {name : String} {fields : List (String × Option Json)}
    (h : name ∉ fields.map (·.1)) :
    named name ((membersOf fields).map fun m => (some m.1, m.2)) = [] := by
  induction fields with
  | nil => rfl
  | cons f rest ih =>
    rw [List.map_cons, List.mem_cons, not_or] at h
    rw [named_membersOf_cons, ih h.2, if_neg fun same => h.1 same.symm]
    rfl

theorem named_membersOf {fields : List (String × Option Json)} (nodup : (fields.map (·.1)).Nodup)
    {f : String × Option Json} (mem : f ∈ fields) :
    named f.1 ((membersOf fields).map fun m => (some m.1, m.2)) = f.2.toList := by
  induction fields with
  | nil => cases mem
  | cons g rest ih =>
    obtain ⟨apart, nodup⟩ := List.nodup_cons.mp nodup
    rw [named_membersOf_cons]
    rcases List.mem_cons.mp mem with rfl | mem
    · rw [if_pos rfl, named_membersOf_absent apart, List.append_nil]
    · have inside : f.1 ∈ rest.map (·.1) := List.mem_map_of_mem mem
      have other : g.1 ≠ f.1 := by
        intro same
        rw [← same] at inside
        exact apart inside
      rw [if_neg other, ih nodup mem]
      rfl

/-- Each field is found again, and those left out are known to be missing. -/
theorem fields?_object (fields : List (String × Option Json))
    (nodup : (fields.map (·.1)).Nodup) :
    fields? (fields.map (·.1)) (object (membersOf fields)) = some (fields.map (·.2)) := by
  have names : ((membersOf fields).map fun m => (some m.1, m.2)).all
      (fun m : Option String × Json => m.1.isSome) = true := by
    rw [List.all_map]
    exact List.all_eq_true.mpr fun _ _ => rfl
  rw [object, fields?, if_pos names]
  refine mapM_map_of_forall (m := Option) fun f mem => ?_
  rw [only?, named_membersOf nodup mem]
  cases f.2 <;> rfl

/-! ## Values -/

theorem toCount?_ofNat {n : Nat} (h : n < counts) : (ofNat n).toCount? = some n := by
  show Option.filter (fun k => decide (k < counts)) (some n) = some n
  rw [Option.filter_some, if_pos (decide_eq_true h)]

/-- A value that may be left out; no value is written as null. -/
theorem optional_map {α : Type} {read : Json → Option α} {write : α → Json} {value : Option α}
    (absent : read .null = none) (h : ∀ a ∈ value, read (write a) = some a) :
    optional read (value.map write) = some value := by
  cases value with
  | none => rfl
  | some a =>
    have back := h a rfl
    rw [Option.map_some]
    unfold optional
    split
    · contradiction
    · rename_i null
      rw [Option.some.inj null, absent] at back
      cases back
    · rename_i j _ same
      rw [← Option.some.inj same, back]
      rfl

end Json
end TextCatalog
