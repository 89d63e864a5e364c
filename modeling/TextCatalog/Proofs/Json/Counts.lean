import TextCatalog.Json.Counts
import TextCatalog.Proofs.Json.Fields
import TextCatalog.Proofs.Json.Leading

/-!
# TextCatalog.Proofs.Json.Counts

An object of counts is read from a text exactly if the grammar makes the text such an object.

* `IsCountOf` — a member that is a count.
* `readCount_eq_ok_iff` — a count is a numeral without sign, fraction and exponent.
* `readCounts_eq_ok_iff` — the whole text; soundness by induction on the fuel, completeness on the
  members.
* `readCounts_print` — counts that are written are read back.
-/

namespace TextCatalog
namespace Json

open Text

variable {d fuel n : Nat} {s u v rest : List Char} {es : List (String × Nat)}
  {members : List (Option String × Json)}

/-- The member says how often its name is counted. -/
structure IsCountOf (m : Option String × Json) (e : String × Nat) : Prop where
  name : m.1 = some e.1
  count : m.2.toCount? = some e.2

/-! ## Counts -/

theorem integer?_eq_some_iff {m : Numeral} : m.integer? = some (.ofNat n) ↔
    m.toNat? = some n ∧ n < Text.counts := by
  obtain ⟨negative, whole, fraction, exponent⟩ := m
  unfold Numeral.integer? Numeral.toNat?
  cases negative <;> cases fraction <;> cases exponent <;> simp <;> omega

/-- A numeral that stands for a count is one. -/
theorem toCount?_eq_some_iff {m : Numeral} :
    (Json.num m).toCount? = some n ↔ m.number? = some (.integer (.ofNat n)) := by
  simp only [toCount?, Option.filter_eq_some_iff, decide_eq_true_eq, ← integer?_eq_some_iff,
    Numeral.number?]
  cases m.integer? with
  | some z => simp
  | none => simp [Option.map_eq_some_iff]

theorem readFinite_eq_ok_iff {number : Number} : readFinite s = .ok (number, rest) ↔
    ∃ m, WritesNumeral s m rest ∧ m.IsLimited ∧ m.number? = some number := by
  constructor
  · intro read
    obtain ⟨⟨m, t⟩, numeral, read⟩ := bind_eq_ok read
    obtain ⟨written, limited⟩ := readNumeral_eq_ok_iff.mp numeral
    dsimp only at read
    split at read
    · rename_i value
      cases read
      exact ⟨m, written, limited, value⟩
    · cases read
  · rintro ⟨m, written, limited, value⟩
    rw [readFinite, readNumeral_eq_ok_iff.mpr ⟨written, limited⟩]
    simp only [bind, Except.bind, value]
    rfl

theorem writesScalar_num_iff {m : Numeral} :
    WritesScalar s (.num m) rest ↔ WritesNumeral s m rest ∧ m.IsFinite := by
  constructor
  · intro written
    cases written with
    | number written finite => exact ⟨written, finite⟩
  · rintro ⟨written, finite⟩
    exact .number written finite

theorem readCount_eq_ok_iff : readCount s = .ok (n, rest) ↔
    ∃ m, WritesScalar (skipSpace s) (.num m) rest ∧ (Json.num m).toCount? = some n := by
  simp only [toCount?_eq_some_iff]
  constructor
  · intro read
    unfold readCount at read
    split at read
    · cases read
    rename_i shown
    split at read
    · obtain ⟨⟨number, t⟩, finite, read⟩ := bind_eq_ok read
      obtain ⟨m, written, limited, value⟩ := readFinite_eq_ok_iff.mp finite
      cases number with
      | double negative units => cases read
      | integer z =>
        cases z with
        | negSucc k => cases read
        | ofNat k =>
          cases read
          exact ⟨m, shown ▸ .number written ⟨by rw [value]; rfl, limited⟩, value⟩
    · exact absurd read refuse_ne_ok
  · rintro ⟨m, written, value⟩
    obtain ⟨written, finite⟩ := writesScalar_num_iff.mp written
    obtain ⟨c, t, shown, first⟩ := written.head
    have read := readFinite_eq_ok_iff.mpr ⟨m, written, finite.2, value⟩
    rw [shown] at read
    rw [readCount, shown]
    show (if _ then _ else _) = _
    rw [if_pos first, read]
    rfl

theorem readCount_of_begins {j : Json} (begins : Begins false d s (.value j) rest)
    (value : j.toCount? = some n) : readCount s = .ok (n, rest) := by
  cases j with
  | num m =>
    cases begins with
    | scalar written => exact readCount_eq_ok_iff.mpr ⟨m, written, value⟩
    | embedded on => cases on
  | _ => cases value

theorem readCount_length (read : readCount s = .ok (n, rest)) : rest.length ≤ s.length := by
  obtain ⟨m, written, _⟩ := readCount_eq_ok_iff.mp read
  exact (readScalar_short .strict (skipSpace_length_le (Nat.le_refl _)) _ _
    (readScalar_eq_ok_iff.mpr written)).2

/-! ## Members -/

theorem readPlainText_length {text : String} (read : readPlainText s = .ok (text, rest)) :
    rest.length ≤ s.length := by
  obtain ⟨t, written, _⟩ := readPlainText_eq_ok_iff.mp read
  exact (readText_length written.read).2

theorem readCountMembers_sound {name : List Char}
    (read : readCountMembers fuel (String.ofList name) v = .ok (es, rest))
    (shown : skipSpace s = '"' :: u) (written : WritesText u name v) :
    ∃ members, Begins false d s (.members members) rest ∧ List.Forall₂ IsCountOf members es := by
  induction fuel generalizing s u v name es with
  | zero => cases read
  | succ fuel ih =>
    obtain ⟨w, colon, read⟩ := bind_eq_ok read
    have named : Names s name w := ⟨u, v, shown, written, expectColon_eq_ok_iff.mp colon⟩
    obtain ⟨⟨n, t⟩, count, read⟩ := bind_eq_ok read
    obtain ⟨m, number, value⟩ := readCount_eq_ok_iff.mp count
    have first : Begins false d w (.value (.num m)) t := .scalar number
    have member : IsCountOf (some (String.ofList name), .num m) (String.ofList name, n) :=
      ⟨rfl, value⟩
    obtain ⟨⟨more, y⟩, after, read⟩ := bind_eq_ok read
    cases more with
    | false =>
      cases read
      exact ⟨_, .lastMember named first (nextMember_end_iff.mp after), .cons member .nil⟩
    | true =>
      obtain ⟨x, parted, quoted⟩ := nextMember_name_iff.mp after
      obtain ⟨⟨next, z⟩, literal, read⟩ := bind_eq_ok read
      obtain ⟨k, written', rfl⟩ := readPlainText_eq_ok_iff.mp literal
      obtain ⟨⟨others, r⟩, each, read⟩ := bind_eq_ok read
      cases read
      obtain ⟨ms, begins, counts⟩ := ih each quoted written'
      exact ⟨_, .member named first parted begins, .cons member counts⟩

/-- What a reader finds that has come to the name of a member. -/
theorem Names.read {name : List Char} {text : String} {w : List Char} (named : Names s name w)
    (shown : skipSpace s = '"' :: u) (literal : readPlainText u = .ok (text, v)) :
    text = String.ofList name ∧ expectColon v = .ok w ∧ w.length < v.length := by
  obtain ⟨_, _, shown', written, colon⟩ := named
  cases shown.symm.trans shown'
  cases literal.symm.trans (readPlainText_eq_ok_iff.mpr ⟨_, written, rfl⟩)
  exact ⟨rfl, expectColon_eq_ok_iff.mpr colon, skipSpace_cons_length colon⟩

theorem readCountMembers_complete {name : String}
    (begins : Begins false d s (.members members) rest)
    (counts : List.Forall₂ IsCountOf members es) (shown : skipSpace s = '"' :: u)
    (literal : readPlainText u = .ok (name, v)) (enough : v.length < fuel) :
    readCountMembers fuel name v = .ok (es, rest) := by
  induction counts generalizing s u v name fuel with
  | nil => cases begins
  | @cons m e _ _ member counts ih =>
    obtain ⟨fuel, rfl⟩ := Nat.exists_eq_add_one_of_ne_zero (Nat.ne_zero_of_lt enough)
    obtain ⟨other, n⟩ := e
    cases begins with
    | lastMember named first closed =>
      obtain ⟨rfl, colon, _⟩ := named.read shown literal
      cases member.name
      cases counts
      rw [readCountMembers, colon]
      simp only [bind, Except.bind, readCount_of_begins first member.count,
        nextMember_end_iff.mpr closed]
      rfl
    | member named first parted others =>
      obtain ⟨rfl, colon, short⟩ := named.read shown literal
      cases member.name
      have read := readCount_of_begins first member.count
      obtain ⟨next, _, ⟨x, y, quoted, written, _⟩, _⟩ := others.opens
      have literal' := readPlainText_eq_ok_iff.mpr ⟨next, written, rfl⟩
      have shorter : y.length < fuel := by
        have := readCount_length read
        have := skipSpace_cons_length parted
        have := skipSpace_cons_length quoted
        have := readPlainText_length literal'
        omega
      rw [readCountMembers, colon]
      simp only [bind, Except.bind, read, nextMember_name_iff.mpr ⟨_, parted, quoted⟩, if_true,
        literal', ih others quoted literal' shorter]
      rfl

/-! ## Whole texts -/

theorem not_writesScalar_obj : ¬WritesScalar s (.obj members) rest := nofun

theorem readCounts_eq_ok_iff : readCounts s = .ok es ↔
    ∃ members rest, Begins false 1 s (.value (.obj members)) rest ∧ skipSpace rest = [] ∧
      List.Forall₂ IsCountOf members es := by
  constructor
  · intro read
    unfold readCounts at read
    split at read
    · rename_i u shown
      obtain ⟨⟨_, t⟩, object, ended⟩ := bind_eq_ok read
      obtain ⟨rfl, whole⟩ := toEnd_eq_ok_iff.mp ended
      obtain ⟨⟨more, v⟩, first, object⟩ := bind_eq_ok object
      cases more with
      | false =>
        cases object
        exact ⟨[], _, .emptyObject shown (firstMember_end_iff.mp first), whole, .nil⟩
      | true =>
        obtain ⟨⟨name, w⟩, literal, object⟩ := bind_eq_ok object
        obtain ⟨k, written, rfl⟩ := readPlainText_eq_ok_iff.mp literal
        obtain ⟨members, begins, counts⟩ :=
          readCountMembers_sound object (firstMember_name_iff.mp first) written
        exact ⟨members, _, .object shown begins nofun, whole, counts⟩
    · exact absurd read refuse_ne_ok
  · rintro ⟨members, rest, begins, whole, counts⟩
    have ended : toEnd (es, rest) = .ok es := toEnd_eq_ok_iff.mpr ⟨rfl, whole⟩
    cases begins with
    | scalar written => exact absurd written not_writesScalar_obj
    | emptyObject shown closed =>
      cases counts
      rw [readCounts, shown]
      show (readCountObject _).bind toEnd = _
      rw [readCountObject, firstMember_end_iff.mpr closed]
      exact ended
    | object shown each _ =>
      obtain ⟨name, _, ⟨v, w, quoted, written, _⟩, _⟩ := each.opens
      have literal := readPlainText_eq_ok_iff.mpr ⟨name, written, rfl⟩
      rw [readCounts, shown]
      show (readCountObject _).bind toEnd = _
      rw [readCountObject, firstMember_name_iff.mpr quoted]
      simp only [bind, Except.bind, if_true, literal,
        readCountMembers_complete each counts quoted literal (Nat.lt_succ_self _)]
      exact ended
    | embedded on => cases on

/-! ## Round trip -/

theorem writesText_escaped (t rest : List Char) :
    WritesText (t.flatMap escaped ++ '"' :: rest) t rest := by
  obtain ⟨u, same, written⟩ := readText_sound (readText_quoted .strict t rest)
  rw [← String.ofList_injective (Option.some.inj same)] at written
  exact written

theorem names_printName (name : String) (rest : List Char) :
    Names (printName (some name) ++ ':' :: rest) name.toList rest := by
  refine ⟨_, _, ?_, writesText_escaped name.toList (':' :: rest), skipSpace_cons (by decide) _⟩
  simp only [printName, quoted, List.cons_append, List.append_assoc, List.nil_append]
  exact skipSpace_cons (by decide) _

theorem begins_count (h : n < counts) (ends : EndsNumber rest) :
    Begins false d (numeral n ++ rest) (.value (ofNat n)) rest := by
  obtain ⟨written, limited⟩ := readNumeral_eq_ok_iff.mp (readNumeral_numeral .strict n ends)
  have value : (Numeral.ofNat n).number? = some (.integer (.ofNat n)) :=
    toCount?_eq_some_iff.mp (toCount?_ofNat h)
  obtain ⟨c, t, shown, digit⟩ := numeral_cons n
  have start : skipSpace (numeral n ++ rest) = numeral n ++ rest := by
    rw [shown, List.cons_append]
    exact skipSpace_cons (isSpace_of_isDigit digit) _
  refine .scalar ?_
  rw [start]
  exact .number written ⟨by rw [value]; rfl, limited⟩

/-- The members that are written for counts. -/
def countMembers (es : List (String × Nat)) : List (Option String × Json) :=
  es.map fun e => (some e.1, ofNat e.2)

theorem isCountOf_countMembers (h : ∀ e ∈ es, e.2 < counts) :
    List.Forall₂ IsCountOf (countMembers es) es :=
  List.forall₂_map_left_iff.mpr
    (List.forall₂_same.mpr fun e mem => ⟨rfl, toCount?_ofNat (h e mem)⟩)

theorem begins_countMembers (h : ∀ e ∈ es, e.2 < counts) (ne : es ≠ []) :
    Begins false d (printMembers (countMembers es) ++ '\x7d' :: rest)
      (.members (countMembers es)) rest := by
  induction es with
  | nil => exact absurd rfl ne
  | cons e es ih =>
    obtain ⟨fits, later⟩ := List.forall_mem_cons.mp h
    obtain ⟨name, n⟩ := e
    have first := begins_count (d := d) fits (endsNumber_membersTail (countMembers es) rest)
    have named := names_printName name
      (numeral n ++ (printMembersTail (countMembers es) ++ '\x7d' :: rest))
    rw [countMembers, List.map_cons, printMembers_cons, print_ofNat, List.append_assoc,
      List.cons_append, List.append_assoc]
    cases es with
    | nil =>
      have begins := Begins.lastMember named first (skipSpace_cons (by decide) rest)
      rw [String.ofList_toList] at begins
      exact begins
    | cons e es =>
      have others := ih later (List.cons_ne_nil e es)
      have parted : skipSpace (printMembersTail (countMembers (e :: es)) ++ '\x7d' :: rest) =
          ',' :: (printMembers (countMembers (e :: es)) ++ '\x7d' :: rest) :=
        skipSpace_cons (by decide) _
      have begins := Begins.member named first parted others
      rw [String.ofList_toList] at begins
      exact begins

theorem begins_countObject (h : ∀ e ∈ es, e.2 < counts) :
    Begins false (d + 1) (print (.obj (countMembers es))) (.value (.obj (countMembers es))) [] := by
  have shown : skipSpace (print (.obj (countMembers es))) =
      '\x7b' :: (printMembers (countMembers es) ++ ['\x7d']) := by
    rw [print, List.cons_append]
    exact skipSpace_cons (by decide) _
  cases es with
  | nil => exact .emptyObject shown (skipSpace_cons (by decide) [])
  | cons e es => exact .object shown (begins_countMembers h (List.cons_ne_nil e es)) nofun

theorem readCounts_print (h : ∀ e ∈ es, e.2 < counts) :
    readCounts (print (.obj (countMembers es))) = .ok es :=
  readCounts_eq_ok_iff.mpr ⟨_, [], begins_countObject h, rfl, isCountOf_countMembers h⟩

end Json
end TextCatalog
