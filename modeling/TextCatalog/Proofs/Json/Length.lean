import TextCatalog.Json.Reader
import TextCatalog.Proofs.Traversal

/-!
# TextCatalog.Proofs.Json.Length

No text in a document is longer than the text that the document is read from.

* `IsShort` — no text in a document, at any depth, is longer than so many characters.
* `Yields` — what a reader keeps: a property of what it reads, and the length of what follows it.
* `readsShort` — values, items, members and embedded documents; by induction on the fuel.
* `leading_short` — a whole document.
-/

namespace TextCatalog
namespace Json

open Text

variable {α β : Type} {P : α → Prop} {Q : β → Prop} {n : Nat} {mode : Mode} {s rest : List Char}

inductive IsShort (n : Nat) : Json → Prop where
  | null : IsShort n .null
  | bool (b : Bool) : IsShort n (.bool b)
  | num (m : Numeral) : IsShort n (.num m)
  | str {t : String} (short : t.toList.length ≤ n) : IsShort n (.str t)
  | unpaired : IsShort n .unpaired
  | arr {items : List Json} (each : ∀ j ∈ items, IsShort n j) : IsShort n (.arr items)
  | obj {members : List (Option String × Json)} (each : ∀ m ∈ members, IsShort n m.2) :
    IsShort n (.obj members)

/-! ## Readers -/

/-- What is read, if anything is, has the property, and no more than `n` characters follow it. -/
def Yields (P : α → Prop) (n : Nat) (r : Except Fault (Front α)) : Prop :=
  ∀ a rest, r = .ok (a, rest) → P a ∧ rest.length ≤ n

theorem yields_error (f : Fault) : Yields P n (.error f) := by
  intro a rest read
  cases read

theorem yields_ok {a : α} (h : P a) (short : rest.length ≤ n) : Yields P n (.ok (a, rest)) := by
  intro a' rest' read
  cases read
  exact ⟨h, short⟩

theorem Yields.bind {r : Except Fault (Front α)} {next : Front α → Except Fault (Front β)} {k : Nat}
    (h : Yields P k r) (step : ∀ a rest, P a → rest.length ≤ k → Yields Q n (next (a, rest))) :
    Yields Q n (r >>= next) := by
  cases read : r with
  | error f => exact yields_error f
  | ok front =>
    obtain ⟨a, rest⟩ := front
    obtain ⟨known, short⟩ := h a rest read
    exact step a rest known short

theorem yields_after {r : Except Fault α} {next : α → Except Fault (Front β)}
    (step : ∀ a, r = .ok a → Yields Q n (next a)) : Yields Q n (r >>= next) := by
  cases read : r with
  | error f => exact yields_error f
  | ok a => exact step a read

theorem Yields.under {r : Except Fault (Front α)} (h : Yields P n r) (step : Step) :
    Yields P n (Json.under step r) := by
  cases read : r with
  | error f => exact yields_error _
  | ok front =>
    rw [read] at h
    exact h

theorem skipSpace_length_le (h : s.length ≤ n) : (skipSpace s).length ≤ n :=
  Nat.le_trans (List.dropWhile_sublist _).length_le h

theorem skipSpace_rest {c : Char} (h : s.length ≤ n) (shown : skipSpace s = c :: rest) :
    rest.length ≤ n := by
  have short := skipSpace_length_le h
  rw [shown, List.length_cons] at short
  exact Nat.le_of_succ_le short

theorem drop_length_le (k : Nat) (h : s.length ≤ n) : (s.drop k).length ≤ n :=
  Nat.le_trans (List.drop_sublist k s).length_le h

/-! ## Strings -/

/-- A piece takes a character at least. -/
theorem readPieces_length (mode : Mode) (b : Bool) (s : List Char) :
    Yields (fun ps => ps.length ≤ s.length) s.length (readPieces mode b s) := by
  fun_induction readPieces mode b s with
  | case2 => exact yields_ok (Nat.zero_le _) (Nat.le_succ _)
  | case4 b w x y z rest n unit ih =>
    refine yields_after fun _ _ => ih.bind fun ps s' count short => yields_ok ?_ ?_
    · simp only [List.length_cons]
      omega
    · simp only [List.length_cons]
      omega
  | case8 b e rest notLong notUnit c escape ih =>
    refine ih.bind fun ps s' count short => yields_ok ?_ ?_
    · simp only [List.length_cons]
      omega
    · simp only [List.length_cons]
      omega
  | case11 b c rest _ _ _ _ _ _ ih =>
    exact ih.bind fun ps s' count short =>
      yields_ok (Nat.succ_le_succ count) (Nat.le_succ_of_le short)
  | _ => exact yields_error _

theorem joinPieces_length {ps : List Piece} {t : List Char} (h : joinPieces ps = some t) :
    t.length ≤ ps.length := by
  fun_induction joinPieces ps generalizing t with
  | case1 =>
    cases h
    exact Nat.le_refl 0
  | case2 c rest ih =>
    obtain ⟨u, joined, rfl⟩ := Option.map_eq_some_iff.mp h
    exact Nat.succ_le_succ (ih joined)
  | case3 high low rest _ _ ih =>
    obtain ⟨u, joined, rfl⟩ := Option.map_eq_some_iff.mp h
    exact Nat.succ_le_succ (Nat.le_succ_of_le (ih joined))
  | case6 high low rest _ _ ih =>
    obtain ⟨u, joined, rfl⟩ := Option.map_eq_some_iff.mp h
    exact Nat.succ_le_succ (ih joined)
  | case8 m rest _ _ ih =>
    obtain ⟨u, joined, rfl⟩ := Option.map_eq_some_iff.mp h
    exact Nat.succ_le_succ (ih joined)
  | _ => cases h

theorem readText_short (mode : Mode) (h : s.length ≤ n) :
    Yields (fun t => ∀ text ∈ t, text.toList.length ≤ n) n (readText mode s) := by
  refine (readPieces_length mode false s).bind fun ps rest count short => yields_ok ?_ ?_
  · intro text denoted
    obtain ⟨t, joined, rfl⟩ := Option.map_eq_some_iff.mp denoted
    rw [String.toList_ofList]
    exact Nat.le_trans (joinPieces_length joined) (Nat.le_trans count h)
  · exact Nat.le_trans short h

theorem isShort_ofText {text : Option String} (h : ∀ t ∈ text, t.toList.length ≤ n) :
    IsShort n (ofText text) := by
  cases text with
  | none => exact .unpaired
  | some t => exact .str (h t rfl)

/-! ## Scalars -/

theorem expect_length {w : List Char} (read : expect w s = .ok rest) : rest.length ≤ s.length := by
  fun_induction expect w s with
  | case1 =>
    cases read
    exact Nat.le_refl _
  | case3 _ _ _ ih => exact Nat.le_succ_of_le (ih read)
  | _ => cases read

theorem word_short {j : Json} (w : String) (plain : IsShort n j) (h : s.length ≤ n) :
    Yields (IsShort n) n (word w j s) := by
  unfold word
  cases read : expect w.toList s with
  | error f => exact yields_error f
  | ok rest => exact yields_ok plain (Nat.le_trans (expect_length read) h)

theorem noDigit_yields (s : List Char) : Yields P n (noDigit s) := by
  cases s <;> exact yields_error _

theorem readWhole_yields (h : s.length ≤ n) : Yields (fun _ => True) n (readWhole s) := by
  unfold readWhole
  split
  · exact noDigit_yields s
  · exact yields_ok trivial (drop_length_le 1 h)
  · exact yields_error _
  · exact yields_ok trivial (drop_length_le _ h)

theorem readFraction_yields (h : s.length ≤ n) : Yields (fun _ => True) n (readFraction s) := by
  unfold readFraction
  split
  · rename_i rest
    split
    · exact noDigit_yields rest
    · exact yields_ok trivial (drop_length_le _ (Nat.le_of_succ_le h))
  · exact yields_ok trivial h

theorem readExponentDigits_yields (isLimited : Bool) (sign : Int) (h : s.length ≤ n) :
    Yields (fun _ => True) n (readExponentDigits isLimited sign s) := by
  unfold readExponentDigits
  split
  · exact noDigit_yields s
  · simp only
    split
    · exact yields_error _
    · exact yields_ok trivial (drop_length_le _ h)

theorem readExponent_yields (isLimited : Bool) (h : s.length ≤ n) :
    Yields (fun _ => True) n (readExponent isLimited s) := by
  unfold readExponent
  split
  · exact yields_ok trivial (Nat.zero_le n)
  · have short := Nat.le_of_succ_le h
    split
    · split
      · exact readExponentDigits_yields _ _ (Nat.le_of_succ_le short)
      · exact readExponentDigits_yields _ _ (Nat.le_of_succ_le short)
      · exact readExponentDigits_yields _ _ short
    · exact yields_ok trivial h

theorem readUnsigned_yields (mode : Mode) (negative : Bool) (h : s.length ≤ n) :
    Yields (fun _ => True) n (readUnsigned mode negative s) :=
  (readWhole_yields h).bind fun _ _ _ h => (readFraction_yields h).bind fun _ _ _ h =>
    (readExponent_yields _ h).bind fun _ _ _ h => yields_ok trivial h

theorem readNumeral_yields (mode : Mode) (h : s.length ≤ n) :
    Yields (fun _ => True) n (readNumeral mode s) := by
  unfold readNumeral
  split
  · exact readUnsigned_yields mode true (Nat.le_of_succ_le h)
  · exact readUnsigned_yields mode false h

theorem readScalar_short (mode : Mode) (h : s.length ≤ n) :
    Yields (IsShort n) n (readScalar mode s) := by
  unfold readScalar
  split
  · exact yields_error _
  split
  · exact word_short "null" .null h
  split
  · exact word_short "true" (.bool true) h
  split
  · exact word_short "false" (.bool false) h
  split
  · refine (readNumeral_yields mode h).bind fun m rest _ short => ?_
    show Yields _ n (if _ then _ else _)
    split
    · exact yields_error _
    · exact yields_ok (.num m) short
  · exact yields_error _

/-! ## Marks and ends -/

theorem expectColon_eq_ok_iff : expectColon s = .ok rest ↔ skipSpace s = ':' :: rest := by
  unfold expectColon
  split
  · rename_i shown
    simp [shown, failAtEnd, fail]
  · rename_i shown
    simp [shown]
  · rename_i other
    simp only [fail, reduceCtorEq, false_iff]
    exact other rest

theorem expectObjectEnd_eq_ok_iff :
    expectObjectEnd s = .ok rest ↔ skipSpace s = '\x7d' :: rest := by
  unfold expectObjectEnd
  split
  · rename_i shown
    simp [shown, failAtEnd, fail]
  · rename_i shown
    simp [shown]
  · rename_i shown
    simp [shown, fail]
  · rename_i other _
    simp only [fail, reduceCtorEq, false_iff]
    exact other rest

theorem toEnd_eq_ok_iff {front : Front α} {a : α} :
    toEnd front = .ok a ↔ front.1 = a ∧ skipSpace front.2 = [] := by
  unfold toEnd
  split
  · rename_i shown
    simp [shown]
  · rename_i other
    simpa [fail] using fun _ => other

theorem firstMember_end_iff :
    firstMember s = .ok (false, rest) ↔ skipSpace s = '\x7d' :: rest := by
  unfold firstMember
  split <;> simp_all [failAtEnd, fail]

theorem firstMember_name_iff : firstMember s = .ok (true, rest) ↔ skipSpace s = '"' :: rest := by
  unfold firstMember
  split <;> simp_all [failAtEnd, fail]

theorem nextMember_end_iff : nextMember s = .ok (false, rest) ↔ skipSpace s = '\x7d' :: rest := by
  unfold nextMember
  split
  · simp_all [failAtEnd, fail]
  · simp_all
  · split <;> simp_all [failAtEnd, fail]
  · simp_all [fail]

theorem nextMember_name_iff : nextMember s = .ok (true, rest) ↔
    ∃ u, skipSpace s = ',' :: u ∧ skipSpace u = '"' :: rest := by
  unfold nextMember
  split
  · simp_all [failAtEnd, fail]
  · simp_all
  · split <;> simp_all [failAtEnd, fail]
  · simp_all [fail]

theorem firstMember_yields (h : s.length ≤ n) : Yields (fun _ => True) n (firstMember s) := by
  intro more rest read
  cases more with
  | false => exact ⟨trivial, skipSpace_rest h (firstMember_end_iff.mp read)⟩
  | true => exact ⟨trivial, skipSpace_rest h (firstMember_name_iff.mp read)⟩

theorem nextMember_yields (h : s.length ≤ n) : Yields (fun _ => True) n (nextMember s) := by
  intro more rest read
  cases more with
  | false => exact ⟨trivial, skipSpace_rest h (nextMember_end_iff.mp read)⟩
  | true =>
    obtain ⟨u, parted, named⟩ := nextMember_name_iff.mp read
    exact ⟨trivial, skipSpace_rest (skipSpace_rest h parted) named⟩

/-! ## Values -/

/-- What a reader of each kind keeps, with so much fuel. -/
structure ReadsShort (n : Nat) (mode : Mode) (fuel : Nat) : Prop where
  value : ∀ {depth s}, s.length ≤ n → Yields (IsShort n) n (readValue mode fuel depth s)
  items : ∀ {depth index s}, s.length ≤ n →
    Yields (fun items => ∀ j ∈ items, IsShort n j) n (readItems mode fuel depth index s)
  members : ∀ {depth name s}, s.length ≤ n →
    Yields (fun members => ∀ m ∈ members, IsShort n m.2) n (readMembers mode fuel depth name s)
  embedded : ∀ {s}, s.length ≤ n → Yields (IsShort n) n (readEmbedded mode fuel s)

theorem readsShort_zero (n : Nat) (mode : Mode) : ReadsShort n mode 0 := by
  constructor
  · intro depth s _
    rw [readValue]
    exact yields_error _
  · intro depth index s _
    rw [readItems]
    exact yields_error _
  · intro depth name s _
    rw [readMembers]
    exact yields_error _
  · intro s _
    rw [readEmbedded]
    exact yields_error _

variable {fuel : Nat}

theorem ReadsShort.value_succ (ih : ReadsShort n mode fuel) {depth : Nat} (h : s.length ≤ n) :
    Yields (IsShort n) n (readValue mode (fuel + 1) depth s) := by
  rw [readValue]
  split
  · exact yields_error _
  · rename_i rest shown
    exact (readText_short mode (skipSpace_rest h shown)).bind fun text s denoted short =>
      yields_ok (isShort_ofText denoted) short
  · rename_i rest shown
    have inner := skipSpace_rest h shown
    split
    · exact yields_error _
    · split
      · exact yields_error _
      · rename_i closed
        exact yields_ok (.arr fun j mem => by cases mem) (skipSpace_rest inner closed)
      · exact (ih.items (skipSpace_length_le inner)).bind fun items s each short =>
          yields_ok (.arr each) short
  · rename_i rest shown
    have inner := skipSpace_rest h shown
    split
    · exact yields_error _
    · refine (firstMember_yields inner).bind fun more s _ short => ?_
      cases more with
      | false => exact yields_ok (.obj fun m mem => by cases mem) short
      | true =>
        refine (readText_short mode short).bind fun name s _ short => ?_
        show Yields _ n (if _ then _ else _)
        split
        · exact ih.embedded short
        · exact (ih.members short).bind fun members s each short => yields_ok (.obj each) short
  · exact readScalar_short mode (skipSpace_length_le h)

theorem ReadsShort.items_succ (ih : ReadsShort n mode fuel) {depth index : Nat} (h : s.length ≤ n) :
    Yields (fun items => ∀ j ∈ items, IsShort n j) n (readItems mode (fuel + 1) depth index s) := by
  rw [readItems]
  refine ((ih.value h).under _).bind fun j s first short => ?_
  have alone : ∀ i ∈ [j], IsShort n i := fun i mem => by
    rw [List.mem_singleton.mp mem]
    exact first
  dsimp only
  split
  · exact yields_error _
  · rename_i closed
    exact yields_ok alone (skipSpace_rest short closed)
  · rename_i rest parted
    have inner := skipSpace_rest short parted
    split
    · exact yields_error _
    · exact yields_error _
    · exact (ih.items (skipSpace_length_le inner)).bind fun items s each short =>
        yields_ok (List.forall_mem_cons.mpr ⟨first, each⟩) short
  · exact yields_error _

theorem expectColon_length (h : s.length ≤ n) (read : expectColon s = .ok rest) :
    rest.length ≤ n :=
  skipSpace_rest h (expectColon_eq_ok_iff.mp read)

theorem ReadsShort.members_succ (ih : ReadsShort n mode fuel) {depth : Nat} {name : Option String}
    (h : s.length ≤ n) :
    Yields (fun members => ∀ m ∈ members, IsShort n m.2) n
      (readMembers mode (fuel + 1) depth name s) := by
  rw [readMembers]
  refine yields_after fun s colon => ?_
  refine ((ih.value (expectColon_length h colon)).under _).bind fun j s first short => ?_
  have alone : ∀ m ∈ [(name, j)], IsShort n m.2 := fun m mem => by
    rw [List.mem_singleton.mp mem]
    exact first
  refine (nextMember_yields short).bind fun more s _ short => ?_
  cases more with
  | false => exact yields_ok alone short
  | true =>
    exact (readText_short mode short).bind fun next s _ short =>
      (ih.members short).bind fun members s each short =>
        yields_ok (List.forall_mem_cons.mpr ⟨first, each⟩) short

/-- What is of another type than it should be is never handed back. -/
theorem refuse_ne_ok {wanted : Wanted} {a : α} : refuse wanted s ≠ .ok a := by
  intro read
  unfold refuse at read
  split at read
  · cases read
  · obtain ⟨_, _, read⟩ := bind_eq_ok read
    cases read
  · cases read
  · cases read
  · obtain ⟨_, _, read⟩ := bind_eq_ok read
    dsimp only at read
    split at read <;> cases read

theorem readEmbeddedText_short (h : s.length ≤ n) :
    Yields (fun text => text.toList.length ≤ n) n (readEmbeddedText s) := by
  unfold readEmbeddedText
  split
  · rename_i rest shown
    refine (readText_short .strict (skipSpace_rest h shown)).bind fun text s denoted short =>
      yields_ok ?_ short
    cases text with
    | none => exact Nat.zero_le n
    | some text => exact denoted text rfl
  · intro text rest read
    exact absurd read refuse_ne_ok

theorem expectObjectEnd_length (h : s.length ≤ n) (read : expectObjectEnd s = .ok rest) :
    rest.length ≤ n :=
  skipSpace_rest h (expectObjectEnd_eq_ok_iff.mp read)

/-- An embedded document is read from a text that is no longer than the whole. -/
theorem ReadsShort.embedded_succ (ih : ReadsShort n mode fuel) (h : s.length ≤ n) :
    Yields (IsShort n) n (readEmbedded mode (fuel + 1) s) := by
  rw [readEmbedded]
  refine yields_after fun s colon => ?_
  refine ((readEmbeddedText_short (expectColon_length h colon)).under _).bind
    fun text s whole short => ?_
  dsimp only
  refine yields_after fun j embedded => yields_after fun s closed => ?_
  refine yields_ok ?_ (expectObjectEnd_length short closed)
  cases value : readValue mode fuel maxDepth text.toList with
  | error f =>
    rw [value] at embedded
    cases embedded
  | ok front =>
    obtain ⟨i, rest⟩ := front
    rw [value] at embedded
    have same : j = i := by
      cases ended : toEnd (i, rest) with
      | error f =>
        simp only [Except.bind, ended] at embedded
        cases embedded
      | ok k =>
        simp only [Except.bind, ended] at embedded
        cases embedded
        exact (toEnd_eq_ok_iff.mp ended).1.symm
    rw [same]
    exact (ih.value whole i rest value).1

theorem readsShort (n : Nat) (mode : Mode) (fuel : Nat) : ReadsShort n mode fuel := by
  induction fuel with
  | zero => exact readsShort_zero n mode
  | succ fuel ih =>
    exact ⟨ih.value_succ, ih.items_succ, ih.members_succ, ih.embedded_succ⟩

/-- No text in the document that a text begins with is longer than the whole text. -/
theorem leading_short {j : Json} (read : leading s = .ok j) : IsShort s.length j := by
  unfold leading at read
  cases value : readValue .strict (fuelFor s) maxDepth s with
  | error f =>
    rw [value] at read
    cases read
  | ok front =>
    rw [value] at read
    cases read
    exact ((readsShort s.length .strict _).value (Nat.le_refl _) front.1 front.2 value).1

end Json
end TextCatalog
