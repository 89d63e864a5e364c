import TextCatalog.Proofs.Json.Literal

/-!
# TextCatalog.Proofs.Json.Unambiguity

A text begins with one document at most, and that ends at one place.

* `Begins.head`, `Begins.opens` — how parts begin.
* `Begins.scalar_inv`, `Begins.text_inv`, `Begins.list_inv`, `Begins.object_inv` — what a value is,
  by its first character.
* `Begins.unique` — parts of the same kind are the same; by induction on the grammar.
* `Starts.unique` — so are documents.
* `starts_iff_of_isDirect` — embedding is of no account where nothing can be embedded.
-/

namespace TextCatalog
namespace Json

variable {embedding : Bool} {d : Nat} {s u t t' rest rest' : List Char} {j : Json} {p : Part}

theorem WritesText.unique (h : WritesText s t rest) (h' : WritesText s t' rest') :
    t = t' ∧ rest = rest' := by
  have same := h.read.symm.trans h'.read
  simp only [Except.ok.injEq, Prod.mk.injEq, Option.some.injEq] at same
  exact ⟨String.ofList_injective same.1, same.2⟩

theorem WritesScalar.unique {i : Json} (h : WritesScalar s i rest) (h' : WritesScalar s j rest') :
    i = j ∧ rest = rest' := by
  have same := (readScalar_eq_ok_iff.mpr h).symm.trans (readScalar_eq_ok_iff.mpr h')
  simpa using same

theorem Names.unique {name name' : List Char} (h : Names s name rest) (h' : Names s name' rest') :
    name = name' ∧ rest = rest' := by
  obtain ⟨u, v, shown, written, colon⟩ := h
  obtain ⟨u', v', shown', written', colon'⟩ := h'
  cases shown.symm.trans shown'
  obtain ⟨rfl, rfl⟩ := written.unique written'
  cases colon.symm.trans colon'
  exact ⟨rfl, rfl⟩

theorem head_eq {c c' : Char} {v : List Char} (shown : skipSpace s = c :: u)
    (shown' : skipSpace s = c' :: v) : c = c' :=
  (List.cons.inj (shown.symm.trans shown')).1

theorem not_scalar {c : Char} (h : WritesScalar (skipSpace s) j rest)
    (shown : skipSpace s = c :: u) : c ∉ ['"', '[', '\x7b', ']'] := by
  obtain ⟨c', v, shown', other⟩ := h.head
  rwa [head_eq shown shown']

namespace Begins

/-! ## First characters -/

/-- No part begins as a list ends, and none is empty. -/
theorem head (h : Begins embedding d s p rest) : ∃ c u, skipSpace s = c :: u ∧ c ≠ ']' := by
  induction h with
  | scalar written =>
    obtain ⟨c, u, shown, other⟩ := written.head
    exact ⟨c, u, shown, fun same => other (by simp [same])⟩
  | text shown => exact ⟨_, _, shown, by decide⟩
  | emptyList shown => exact ⟨_, _, shown, by decide⟩
  | list shown => exact ⟨_, _, shown, by decide⟩
  | emptyObject shown => exact ⟨_, _, shown, by decide⟩
  | object shown => exact ⟨_, _, shown, by decide⟩
  | embedded _ shown => exact ⟨_, _, shown, by decide⟩
  | lastItem _ _ ih => exact ih
  | item _ _ _ ih => exact ih
  | lastMember named =>
    obtain ⟨u, v, shown, _⟩ := named
    exact ⟨_, _, shown, by decide⟩
  | member named =>
    obtain ⟨u, v, shown, _⟩ := named
    exact ⟨_, _, shown, by decide⟩

/-- Members begin with the name of the first one. -/
theorem opens {members : List (Option String × Json)}
    (h : Begins embedding d s (.members members) rest) :
    ∃ name u, Names s name u ∧ firstName members = some (String.ofList name) := by
  cases h with
  | lastMember named => exact ⟨_, _, named, rfl⟩
  | member named => exact ⟨_, _, named, rfl⟩

theorem scalar_inv (h : Begins embedding d s (.value j) rest) {i : Json}
    (scalar : WritesScalar (skipSpace s) i rest') : WritesScalar (skipSpace s) j rest := by
  cases h with
  | scalar written => exact written
  | text shown => exact absurd (by decide) (not_scalar scalar shown)
  | emptyList shown => exact absurd (by decide) (not_scalar scalar shown)
  | list shown => exact absurd (by decide) (not_scalar scalar shown)
  | emptyObject shown => exact absurd (by decide) (not_scalar scalar shown)
  | object shown => exact absurd (by decide) (not_scalar scalar shown)
  | embedded _ shown => exact absurd (by decide) (not_scalar scalar shown)

theorem text_inv (h : Begins embedding d s (.value j) rest) (shown : skipSpace s = '"' :: u) :
    ∃ t, j = .str (String.ofList t) ∧ WritesText u t rest := by
  cases h with
  | scalar written => exact absurd (by decide) (not_scalar written shown)
  | text shown' written =>
    cases shown.symm.trans shown'
    exact ⟨_, rfl, written⟩
  | emptyList shown' => exact absurd (head_eq shown shown') (by decide)
  | list shown' => exact absurd (head_eq shown shown') (by decide)
  | emptyObject shown' => exact absurd (head_eq shown shown') (by decide)
  | object shown' => exact absurd (head_eq shown shown') (by decide)
  | embedded _ shown' => exact absurd (head_eq shown shown') (by decide)

theorem list_inv (h : Begins embedding (d + 1) s (.value j) rest) (shown : skipSpace s = '[' :: u) :
    (j = .arr [] ∧ skipSpace u = ']' :: rest) ∨
      ∃ items, j = .arr items ∧ Begins embedding d u (.items items) rest := by
  cases h with
  | scalar written => exact absurd (by decide) (not_scalar written shown)
  | text shown' => exact absurd (head_eq shown shown') (by decide)
  | emptyList shown' closed =>
    cases shown.symm.trans shown'
    exact .inl ⟨rfl, closed⟩
  | list shown' each =>
    cases shown.symm.trans shown'
    exact .inr ⟨_, rfl, each⟩
  | emptyObject shown' => exact absurd (head_eq shown shown') (by decide)
  | object shown' => exact absurd (head_eq shown shown') (by decide)
  | embedded _ shown' => exact absurd (head_eq shown shown') (by decide)

theorem object_inv (h : Begins embedding (d + 1) s (.value j) rest)
    (shown : skipSpace s = '\x7b' :: u) :
    (j = .obj [] ∧ skipSpace u = '\x7d' :: rest) ∨
      (∃ members, j = .obj members ∧ Begins embedding d u (.members members) rest ∧
        (embedding = true → firstName members ≠ some embeddedName)) ∨
      (embedding = true ∧ ∃ v w t x y, Names u embeddedName.toList v ∧ skipSpace v = '"' :: w ∧
        WritesText w t x ∧ skipSpace x = '\x7d' :: rest ∧
        Begins embedding maxDepth t (.value j) y) := by
  cases h with
  | scalar written => exact absurd (by decide) (not_scalar written shown)
  | text shown' => exact absurd (head_eq shown shown') (by decide)
  | emptyList shown' => exact absurd (head_eq shown shown') (by decide)
  | list shown' => exact absurd (head_eq shown shown') (by decide)
  | emptyObject shown' closed =>
    cases shown.symm.trans shown'
    exact .inl ⟨rfl, closed⟩
  | object shown' each plain =>
    cases shown.symm.trans shown'
    exact .inr (.inl ⟨_, rfl, each, plain⟩)
  | embedded on shown' named quoted written closed document =>
    cases shown.symm.trans shown'
    exact .inr (.inr ⟨on, _, _, _, _, _, named, quoted, written, closed, document⟩)

theorem items_not_closed {items : List Json} (h : Begins embedding d s (.items items) rest) :
    skipSpace s ≠ ']' :: u := by
  obtain ⟨c, v, shown, open_list⟩ := h.head
  exact fun closed => open_list (head_eq shown closed)

theorem members_not_closed {members : List (Option String × Json)}
    (h : Begins embedding d s (.members members) rest) : skipSpace s ≠ '\x7d' :: u := by
  obtain ⟨name, v, ⟨w, _, shown, _⟩, _⟩ := h.opens
  exact fun closed => absurd (head_eq shown closed) (by decide)

/-- Members after the name that embeds a document are those of an object that embeds one. -/
theorem firstName_eq {members : List (Option String × Json)}
    (h : Begins embedding d s (.members members) rest) (named : Names s embeddedName.toList u) :
    firstName members = some embeddedName := by
  obtain ⟨name, v, other, first⟩ := h.opens
  rw [first, (other.unique named).1, String.ofList_toList]

end Begins

/-! ## Unambiguity -/

/-- From the same place on, a part of the same kind is the same. -/
def Part.IsOnly (embedding : Bool) (d : Nat) (s : List Char) : Part → List Char → Prop
  | .value j, rest => ∀ i rest', Begins embedding d s (.value i) rest' → i = j ∧ rest' = rest
  | .items is, rest => ∀ js rest', Begins embedding d s (.items js) rest' → js = is ∧ rest' = rest
  | .members ms, rest =>
    ∀ ns rest', Begins embedding d s (.members ns) rest' → ns = ms ∧ rest' = rest

theorem Begins.unique (h : Begins embedding d s p rest) : p.IsOnly embedding d s rest := by
  induction h with
  | scalar written =>
    intro i rest' h'
    exact (h'.scalar_inv written).unique written
  | text shown written =>
    intro i rest' h'
    obtain ⟨t, rfl, written'⟩ := h'.text_inv shown
    obtain ⟨rfl, rfl⟩ := written.unique written'
    exact ⟨rfl, rfl⟩
  | emptyList shown closed =>
    intro i rest' h'
    rcases h'.list_inv shown with ⟨rfl, closed'⟩ | ⟨items, _, each⟩
    · cases closed.symm.trans closed'
      exact ⟨rfl, rfl⟩
    · exact absurd closed each.items_not_closed
  | list shown each ih =>
    intro i rest' h'
    rcases h'.list_inv shown with ⟨_, closed⟩ | ⟨items, rfl, each'⟩
    · exact absurd closed each.items_not_closed
    · obtain ⟨rfl, rfl⟩ := ih _ _ each'
      exact ⟨rfl, rfl⟩
  | emptyObject shown closed =>
    intro i rest' h'
    rcases h'.object_inv shown with ⟨rfl, closed'⟩ | ⟨_, _, each, _⟩ | ⟨_, _, _, _, _, _, named, _⟩
    · cases closed.symm.trans closed'
      exact ⟨rfl, rfl⟩
    · exact absurd closed each.members_not_closed
    · obtain ⟨_, _, opened, _⟩ := named
      exact absurd (head_eq closed opened) (by decide)
  | object shown each plain ih =>
    intro i rest' h'
    rcases h'.object_inv shown with ⟨_, closed⟩ | ⟨_, rfl, each', _⟩ | ⟨on, _, _, _, _, _, named, _⟩
    · exact absurd closed each.members_not_closed
    · obtain ⟨rfl, rfl⟩ := ih _ _ each'
      exact ⟨rfl, rfl⟩
    · exact absurd (each.firstName_eq named) (plain on)
  | embedded on shown named quoted written closed document whole ih =>
    intro i rest' h'
    rcases h'.object_inv shown with ⟨_, closed'⟩ | ⟨_, _, each, plain⟩ | ⟨_, other⟩
    · obtain ⟨_, _, opened, _⟩ := named
      exact absurd (head_eq closed' opened) (by decide)
    · exact absurd (each.firstName_eq named) (plain on)
    · obtain ⟨_, _, _, _, _, named', quoted', written', closed', inner⟩ := other
      obtain ⟨_, rfl⟩ := named.unique named'
      cases quoted.symm.trans quoted'
      obtain ⟨rfl, rfl⟩ := written.unique written'
      cases closed.symm.trans closed'
      exact ⟨(ih _ _ inner).1, rfl⟩
  | lastItem first closed ih =>
    intro js rest' h'
    cases h' with
    | lastItem first' closed' =>
      obtain ⟨rfl, rfl⟩ := ih _ _ first'
      cases closed.symm.trans closed'
      exact ⟨rfl, rfl⟩
    | item first' parted _ =>
      obtain ⟨_, rfl⟩ := ih _ _ first'
      exact absurd (head_eq closed parted) (by decide)
  | item first parted others ih ih' =>
    intro js rest' h'
    cases h' with
    | lastItem first' closed =>
      obtain ⟨_, rfl⟩ := ih _ _ first'
      exact absurd (head_eq closed parted) (by decide)
    | item first' parted' others' =>
      obtain ⟨rfl, rfl⟩ := ih _ _ first'
      cases parted.symm.trans parted'
      obtain ⟨rfl, rfl⟩ := ih' _ _ others'
      exact ⟨rfl, rfl⟩
  | lastMember named first closed ih =>
    intro ns rest' h'
    cases h' with
    | lastMember named' first' closed' =>
      obtain ⟨rfl, rfl⟩ := named.unique named'
      obtain ⟨rfl, rfl⟩ := ih _ _ first'
      cases closed.symm.trans closed'
      exact ⟨rfl, rfl⟩
    | member named' first' parted _ =>
      obtain ⟨_, rfl⟩ := named.unique named'
      obtain ⟨_, rfl⟩ := ih _ _ first'
      exact absurd (head_eq closed parted) (by decide)
  | member named first parted others ih ih' =>
    intro ns rest' h'
    cases h' with
    | lastMember named' first' closed =>
      obtain ⟨_, rfl⟩ := named.unique named'
      obtain ⟨_, rfl⟩ := ih _ _ first'
      exact absurd (head_eq closed parted) (by decide)
    | member named' first' parted' others' =>
      obtain ⟨rfl, rfl⟩ := named.unique named'
      obtain ⟨rfl, rfl⟩ := ih _ _ first'
      cases parted.symm.trans parted'
      obtain ⟨rfl, rfl⟩ := ih' _ _ others'
      exact ⟨rfl, rfl⟩

/-- A text begins with no more than one document. -/
theorem Starts.unique {i : Json} (h : Starts embedding s i) (h' : Starts embedding s j) :
    i = j := by
  obtain ⟨rest, begins⟩ := h
  obtain ⟨rest', begins'⟩ := h'
  exact (begins'.unique _ _ begins).1

/-- A text that begins with no document in which one could be embedded is read as it is. -/
theorem starts_iff_of_isDirect (plain : ∀ i, Starts false s i → i.IsDirect) :
    Starts true s j ↔ Starts false s j := by
  constructor
  · intro h
    obtain ⟨i, bare⟩ := h.bare
    rwa [h.unique (bare.direct (plain i bare))]
  · intro h
    exact h.direct (plain j h)

end Json
end TextCatalog
