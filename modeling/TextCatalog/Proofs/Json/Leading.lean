import TextCatalog.Proofs.Json.Unambiguity

/-!
# TextCatalog.Proofs.Json.Leading

The strict reader reads what the grammar says that a text begins with, and nothing else.

* `Sound`, `sound` — what is read is what the text begins with; by induction on the fuel.
* `Part.IsRead`, `Begins.isRead` — what a text begins with is read; by induction on the grammar,
  with a bound on the fuel in terms of the text.
* `leading_eq_ok_iff` — the document that a text begins with.
-/

namespace TextCatalog
namespace Json

open Text

variable {d fuel index : Nat} {s u rest : List Char} {j : Json} {p : Part}

/-! ## Soundness -/

theorem under_eq_ok_iff {α : Type} {step : Step} {r : Except Fault α} {a : α} :
    under step r = .ok a ↔ r = .ok a :=
  mapError_eq_ok_iff

theorem embeds_iff {name : Option String} :
    embeds .strict name = true ↔ name = some embeddedName := by
  simp [embeds]

theorem readPlainText_eq_ok_iff {text : String} : readPlainText s = .ok (text, rest) ↔
    ∃ t, WritesText s t rest ∧ text = String.ofList t := by
  constructor
  · intro read
    obtain ⟨⟨_, v⟩, literal, read⟩ := bind_eq_ok read
    obtain ⟨t, rfl, written⟩ := readText_sound literal
    cases read
    exact ⟨t, written, rfl⟩
  · rintro ⟨t, written, rfl⟩
    rw [readPlainText, written.read]
    rfl

theorem readEmbeddedText_eq_ok_iff {text : String} : readEmbeddedText s = .ok (text, rest) ↔
    ∃ u t, skipSpace s = '"' :: u ∧ WritesText u t rest ∧ text = String.ofList t := by
  constructor
  · intro read
    unfold readEmbeddedText at read
    split at read
    · rename_i u shown
      obtain ⟨t, written, rfl⟩ := readPlainText_eq_ok_iff.mp read
      exact ⟨u, t, shown, written, rfl⟩
    · exact absurd read refuse_ne_ok
  · rintro ⟨u, t, shown, written, rfl⟩
    rw [readEmbeddedText, shown]
    exact readPlainText_eq_ok_iff.mpr ⟨t, written, rfl⟩

/-- What each reader reads with so much fuel, the text begins with. -/
structure Sound (fuel : Nat) : Prop where
  value : ∀ {d s j rest}, readValue .strict fuel d s = .ok (j, rest) →
    Begins true d s (.value j) rest
  items : ∀ {d index s items rest}, readItems .strict fuel d index s = .ok (items, rest) →
    Begins true d s (.items items) rest
  members : ∀ {d s u v name members rest},
    readMembers .strict fuel d (some (String.ofList name)) v = .ok (members, rest) →
      skipSpace s = '"' :: u → WritesText u name v →
        Begins true d s (.members members) rest ∧ firstName members = some (String.ofList name)
  embedded : ∀ {d s u v w j rest}, readEmbedded .strict fuel w = .ok (j, rest) →
    skipSpace s = '\x7b' :: u → skipSpace u = '"' :: v → WritesText v embeddedName.toList w →
      Begins true (d + 1) s (.value j) rest

theorem sound_zero : Sound 0 := by
  constructor
  · intro d s j rest read
    rw [readValue] at read
    cases read
  · intro d index s items rest read
    rw [readItems] at read
    cases read
  · intro d s u v name members rest read
    rw [readMembers] at read
    cases read
  · intro d s u v w j rest read
    rw [readEmbedded] at read
    cases read

theorem Sound.value_succ (ih : Sound fuel)
    (read : readValue .strict (fuel + 1) d s = .ok (j, rest)) :
    Begins true d s (.value j) rest := by
  rw [readValue] at read
  split at read
  · cases read
  · rename_i u shown
    obtain ⟨⟨text, v⟩, literal, read⟩ := bind_eq_ok read
    obtain ⟨t, rfl, written⟩ := readText_sound literal
    cases read
    exact .text shown written
  · rename_i u shown
    split at read
    · cases read
    · split at read
      · cases read
      · rename_i closed
        cases read
        exact .emptyList shown closed
      · obtain ⟨⟨items, v⟩, each, read⟩ := bind_eq_ok read
        cases read
        exact .list shown ((ih.items each).of_skipSpace_eq (skipSpace_skipSpace u).symm)
  · rename_i u shown
    split at read
    · cases read
    · obtain ⟨⟨more, v⟩, first, read⟩ := bind_eq_ok read
      cases more with
      | false =>
        cases read
        exact .emptyObject shown (firstMember_end_iff.mp first)
      | true =>
        have named := firstMember_name_iff.mp first
        obtain ⟨⟨name, w⟩, literal, read⟩ := bind_eq_ok read
        obtain ⟨k, rfl, written⟩ := readText_sound literal
        dsimp only at read
        split at read
        · rename_i embedding
          have same : String.ofList k = embeddedName := Option.some.inj (embeds_iff.mp embedding)
          rw [← String.toList_ofList (l := k), same] at written
          exact ih.embedded read shown named written
        · rename_i plain
          obtain ⟨⟨members, x⟩, each, read⟩ := bind_eq_ok read
          cases read
          obtain ⟨begins, first⟩ := ih.members each named written
          exact .object shown begins fun _ same => plain (embeds_iff.mpr (first ▸ same))
  · exact .scalar (readScalar_eq_ok_iff.mp read)

theorem Sound.items_succ (ih : Sound fuel) {items : List Json}
    (read : readItems .strict (fuel + 1) d index s = .ok (items, rest)) :
    Begins true d s (.items items) rest := by
  rw [readItems] at read
  obtain ⟨⟨j, t⟩, first, read⟩ := bind_eq_ok read
  have first := ih.value (under_eq_ok_iff.mp first)
  dsimp only at read
  split at read
  · cases read
  · rename_i closed
    cases read
    exact .lastItem first closed
  · rename_i u parted
    split at read
    · cases read
    · cases read
    · obtain ⟨⟨others, v⟩, each, read⟩ := bind_eq_ok read
      cases read
      exact .item first parted ((ih.items each).of_skipSpace_eq (skipSpace_skipSpace u).symm)
  · cases read

theorem Sound.members_succ (ih : Sound fuel) {v name : List Char}
    {members : List (Option String × Json)}
    (read : readMembers .strict (fuel + 1) d (some (String.ofList name)) v = .ok (members, rest))
    (shown : skipSpace s = '"' :: u) (written : WritesText u name v) :
    Begins true d s (.members members) rest ∧ firstName members = some (String.ofList name) := by
  rw [readMembers] at read
  obtain ⟨w, colon, read⟩ := bind_eq_ok read
  have named : Names s name w := ⟨u, v, shown, written, expectColon_eq_ok_iff.mp colon⟩
  obtain ⟨⟨j, t⟩, first, read⟩ := bind_eq_ok read
  have first := ih.value (under_eq_ok_iff.mp first)
  obtain ⟨⟨more, y⟩, after, read⟩ := bind_eq_ok read
  cases more with
  | false =>
    cases read
    exact ⟨.lastMember named first (nextMember_end_iff.mp after), rfl⟩
  | true =>
    obtain ⟨x, parted, quoted⟩ := nextMember_name_iff.mp after
    obtain ⟨⟨next, z⟩, literal, read⟩ := bind_eq_ok read
    obtain ⟨k, rfl, written'⟩ := readText_sound literal
    obtain ⟨⟨others, r⟩, each, read⟩ := bind_eq_ok read
    cases read
    exact ⟨.member named first parted (ih.members each quoted written').1, rfl⟩

theorem Sound.embedded_succ (ih : Sound fuel) {v w : List Char}
    (read : readEmbedded .strict (fuel + 1) w = .ok (j, rest)) (shown : skipSpace s = '\x7b' :: u)
    (named : skipSpace u = '"' :: v) (written : WritesText v embeddedName.toList w) :
    Begins true (d + 1) s (.value j) rest := by
  rw [readEmbedded] at read
  obtain ⟨x, colon, read⟩ := bind_eq_ok read
  obtain ⟨⟨text, y⟩, inner, read⟩ := bind_eq_ok read
  obtain ⟨z, t, quoted, literal, rfl⟩ := readEmbeddedText_eq_ok_iff.mp (under_eq_ok_iff.mp inner)
  obtain ⟨i, document, read⟩ := bind_eq_ok read
  obtain ⟨⟨k, r⟩, value, ended⟩ := bind_eq_ok (mapError_eq_ok_iff.mp document)
  obtain ⟨rfl, whole⟩ := toEnd_eq_ok_iff.mp ended
  obtain ⟨q, closed, read⟩ := bind_eq_ok read
  cases read
  rw [String.toList_ofList] at value
  exact .embedded rfl shown ⟨v, w, named, written, expectColon_eq_ok_iff.mp colon⟩ quoted literal
    (expectObjectEnd_eq_ok_iff.mp closed) (ih.value value) whole

theorem sound (fuel : Nat) : Sound fuel := by
  induction fuel with
  | zero => exact sound_zero
  | succ fuel ih => exact ⟨ih.value_succ, ih.items_succ, ih.members_succ, ih.embedded_succ⟩

/-! ## Completeness -/

/-- A reader with so much fuel reads the part. -/
def Part.IsRead (d : Nat) (s : List Char) : Part → List Char → Prop
  | .value j, rest => ∀ fuel, 2 * s.length < fuel → readValue .strict fuel d s = .ok (j, rest)
  | .items is, rest => ∀ fuel index, 2 * s.length + 1 < fuel →
    readItems .strict fuel d index s = .ok (is, rest)
  | .members ms, rest => ∀ fuel u name v, skipSpace s = '"' :: u →
    readText .strict u = .ok (name, v) → 2 * v.length + 1 < fuel →
      readMembers .strict fuel d name v = .ok (ms, rest)

theorem skipSpace_cons_length {c : Char} (shown : skipSpace s = c :: u) : u.length < s.length := by
  have short := skipSpace_length_le (Nat.le_refl s.length)
  rw [shown] at short
  exact short

theorem readValue_length (read : readValue .strict fuel d s = .ok (j, rest)) :
    rest.length ≤ s.length :=
  ((readsShort s.length .strict fuel).value (Nat.le_refl _) j rest read).2

theorem readText_length {text : Option String} (read : readText .strict s = .ok (text, rest)) :
    (∀ t ∈ text, t.toList.length ≤ s.length) ∧ rest.length ≤ s.length :=
  readText_short .strict (Nat.le_refl _) text rest read

theorem readItems_skipSpace (fuel d index : Nat) (s : List Char) :
    readItems .strict fuel d index (skipSpace s) = readItems .strict fuel d index s := by
  have value : ∀ fuel, readValue .strict fuel d (skipSpace s) = readValue .strict fuel d s := by
    intro fuel
    cases fuel with
    | zero => rw [readValue, readValue]
    | succ fuel => rw [readValue, readValue, skipSpace_skipSpace]
  cases fuel with
  | zero => rw [readItems, readItems]
  | succ fuel => rw [readItems, readItems, value]

theorem isRead_list {items : List Json} (shown : skipSpace s = '[' :: u)
    (each : Begins true d u (.items items) rest) (ih : (Part.items items).IsRead d u rest) :
    (Part.value (.arr items)).IsRead (d + 1) s rest := by
  intro fuel enough
  have short := skipSpace_cons_length shown
  obtain ⟨fuel, rfl⟩ := Nat.exists_eq_add_one_of_ne_zero (Nat.ne_zero_of_lt enough)
  obtain ⟨c, v, first, inside⟩ := each.head
  have read := ih fuel 0 (by omega)
  rw [← readItems_skipSpace, first] at read
  rw [readValue_list shown first inside, read]
  rfl

theorem isRead_object {members : List (Option String × Json)} (shown : skipSpace s = '\x7b' :: u)
    (each : Begins true d u (.members members) rest)
    (plain : firstName members ≠ some embeddedName) (ih : (Part.members members).IsRead d u rest) :
    (Part.value (.obj members)).IsRead (d + 1) s rest := by
  intro fuel enough
  have short := skipSpace_cons_length shown
  obtain ⟨fuel, rfl⟩ := Nat.exists_eq_add_one_of_ne_zero (Nat.ne_zero_of_lt enough)
  obtain ⟨name, _, ⟨v, w, quoted, written, _⟩, first⟩ := each.opens
  have short' := skipSpace_cons_length quoted
  have shorter := (readText_length written.read).2
  have noEmbedding : embeds .strict (some (String.ofList name)) = false := by
    rw [← Bool.not_eq_true, embeds_iff, ← first]
    exact plain
  rw [readValue_object shown quoted written.read noEmbedding,
    ih fuel v _ w quoted written.read (by omega)]
  rfl

theorem isRead_embedded {v w t x y : List Char} (shown : skipSpace s = '\x7b' :: u)
    (named : Names u embeddedName.toList v) (quoted : skipSpace v = '"' :: w)
    (written : WritesText w t x) (closed : skipSpace x = '\x7d' :: rest)
    (ih : (Part.value j).IsRead maxDepth t y) (whole : skipSpace y = []) :
    (Part.value j).IsRead (d + 1) s rest := by
  obtain ⟨a, b, opened, name, colon⟩ := named
  intro fuel enough
  have short : t.length < s.length := by
    have := skipSpace_cons_length shown
    have := skipSpace_cons_length opened
    have := (readText_length name.read).2
    have := skipSpace_cons_length colon
    have := skipSpace_cons_length quoted
    have inner := (readText_length written.read).1 _ rfl
    rw [String.toList_ofList] at inner
    omega
  obtain ⟨fuel, rfl⟩ : ∃ k, fuel = k + 2 := ⟨fuel - 2, by omega⟩
  have text : readEmbeddedText v = .ok (String.ofList t, x) :=
    readEmbeddedText_eq_ok_iff.mpr ⟨w, t, quoted, written, rfl⟩
  have document : (readValue .strict fuel maxDepth t).bind toEnd = .ok j := by
    rw [ih fuel (by omega)]
    exact toEnd_eq_ok_iff.mpr ⟨rfl, whole⟩
  have read : readEmbedded .strict (fuel + 1) b = .ok (j, rest) := by
    rw [readEmbedded, expectColon_eq_ok_iff.mpr colon]
    simp only [bind, Except.bind] at document ⊢
    rw [text]
    simp only [under_ok, String.toList_ofList, document, Except.mapError,
      expectObjectEnd_eq_ok_iff.mpr closed]
    rfl
  rw [readValue, shown]
  simp only [firstMember_name_iff.mpr opened, name.read, bind, Except.bind, if_true]
  rw [if_pos (embeds_iff.mpr (by rw [String.ofList_toList]))]
  exact read

theorem Begins.isRead (h : Begins true d s p rest) : p.IsRead d s rest := by
  induction h with
  | scalar written =>
    intro fuel enough
    obtain ⟨fuel, rfl⟩ := Nat.exists_eq_add_one_of_ne_zero (Nat.ne_zero_of_lt enough)
    have read := readScalar_eq_ok_iff.mpr written
    obtain ⟨c, u, shown, other⟩ := written.head
    simp only [List.mem_cons, List.not_mem_nil, not_or] at other
    rw [shown] at read
    exact (readValue_scalar shown ⟨other.1, other.2.1, other.2.2.1⟩).trans read
  | text shown written =>
    intro fuel enough
    obtain ⟨fuel, rfl⟩ := Nat.exists_eq_add_one_of_ne_zero (Nat.ne_zero_of_lt enough)
    rw [readValue, shown]
    simp only [written.read, bind, Except.bind]
    rfl
  | emptyList shown closed =>
    intro fuel enough
    obtain ⟨fuel, rfl⟩ := Nat.exists_eq_add_one_of_ne_zero (Nat.ne_zero_of_lt enough)
    rw [readValue, shown]
    simp only [closed]
  | list shown each ih => exact isRead_list shown each ih
  | emptyObject shown closed =>
    intro fuel enough
    obtain ⟨fuel, rfl⟩ := Nat.exists_eq_add_one_of_ne_zero (Nat.ne_zero_of_lt enough)
    rw [readValue, shown]
    simp only [firstMember_end_iff.mpr closed]
    rfl
  | object shown each plain ih => exact isRead_object shown each (plain rfl) ih
  | embedded _ shown named quoted written closed _ whole ih =>
    exact isRead_embedded shown named quoted written closed ih whole
  | lastItem first closed ih =>
    intro fuel index enough
    obtain ⟨fuel, rfl⟩ := Nat.exists_eq_add_one_of_ne_zero (Nat.ne_zero_of_lt enough)
    exact readItems_last (ih fuel (by omega)) closed
  | item first parted others ih ih' =>
    intro fuel index enough
    obtain ⟨fuel, rfl⟩ := Nat.exists_eq_add_one_of_ne_zero (Nat.ne_zero_of_lt enough)
    have read := ih fuel (by omega)
    have shorter := readValue_length read
    have short := skipSpace_cons_length parted
    obtain ⟨c, v, shown, inside⟩ := others.head
    have more := ih' fuel (index + 1) (by omega)
    rw [← readItems_skipSpace, shown] at more
    exact readItems_more read parted shown inside more
  | lastMember named first closed ih =>
    obtain ⟨u, v, shown, written, colon⟩ := named
    intro fuel _ name _ shown' literal enough
    cases shown.symm.trans shown'
    cases written.read.symm.trans literal
    have short := skipSpace_cons_length colon
    obtain ⟨fuel, rfl⟩ := Nat.exists_eq_add_one_of_ne_zero (Nat.ne_zero_of_lt enough)
    exact readMembers_last (expectColon_eq_ok_iff.mpr colon) (ih fuel (by omega)) closed
  | member named first parted others ih ih' =>
    obtain ⟨u, v, shown, written, colon⟩ := named
    intro fuel _ name _ shown' literal enough
    cases shown.symm.trans shown'
    cases written.read.symm.trans literal
    have short := skipSpace_cons_length colon
    obtain ⟨fuel, rfl⟩ := Nat.exists_eq_add_one_of_ne_zero (Nat.ne_zero_of_lt enough)
    have read := ih fuel (by omega)
    obtain ⟨next, _, ⟨w, x, quoted, written', _⟩, _⟩ := others.opens
    have more := ih' fuel w _ x quoted written'.read
    have := readValue_length read
    have := skipSpace_cons_length parted
    have := skipSpace_cons_length quoted
    have := (readText_length written'.read).2
    exact readMembers_more (expectColon_eq_ok_iff.mpr colon) read parted quoted written'.read
      (more (by omega))

/-! ## The beginning of a text -/

/-- The reader makes of a text what it begins with. -/
theorem leading_eq_ok_iff : leading s = .ok j ↔ Starts true s j := by
  unfold leading
  constructor
  · intro read
    cases value : readValue .strict (fuelFor s) maxDepth s with
    | error f =>
      rw [value] at read
      cases read
    | ok front =>
      rw [value] at read
      cases read
      exact ⟨front.2, (sound _).value value⟩
  · rintro ⟨rest, begins⟩
    rw [begins.isRead (fuelFor s) (by unfold fuelFor; omega)]
    rfl

end Json
end TextCatalog
