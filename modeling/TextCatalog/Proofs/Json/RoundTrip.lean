import TextCatalog.Json.Printer
import TextCatalog.Proofs.Json.Length
import TextCatalog.Proofs.Text.Padded

/-!
# TextCatalog.Proofs.Json.RoundTrip

Documents as this library writes them are read back.

* `Json.IsPlain` — all numbers are counts and all strings and names are texts.
* `readPieces_escaped`, `joinPieces_pieces` — a string literal, piece by piece.
* `readValue_print` — a document, whatever follows it; by recursion on the document, with twice
  the length of its text as fuel and its length as depth.
* `parse?_compact` — a document that is the whole text.
-/

namespace TextCatalog
namespace Json

open Text

/-! ## Strings -/

def hasShortEscape (c : Char) : Bool :=
  ['"', '\\', '\x08', '\x0c', '\n', '\r', '\t'].contains c

/-- What the reader makes of a written character. -/
def pieceOf (c : Char) : Piece :=
  if hasShortEscape c = false ∧ c.toNat < 0x20 then .unit c.toNat else .char c

theorem unit?_control {n : Nat} (h : n < 0x20) :
    unit? '0' '0' (hexDigit (n / 16)) (hexDigit (n % 16)) = some n := by
  have high := hexValue?_hexDigit (n / 16) (by omega)
  have low := hexValue?_hexDigit (n % 16) (by omega)
  have zero : hexValue? '0' = some 0 := by decide
  simp only [unit?, high, low, zero]
  congr 1
  omega

theorem readPieces_unit {mode : Mode} {b : Bool} {w x y z : Char} {n : Nat} {s : List Char}
    (hex : unit? w x y z = some n) (check : checkUnit mode b n s = .ok ()) :
    readPieces mode b ('\\' :: 'u' :: w :: x :: y :: z :: s) =
      (readPieces mode (isLeading n) s).map fun p => (.unit n :: p.1, p.2) := by
  rw [readPieces]
  simp only [hex, check]
  show (readPieces mode (isLeading n) s >>= _) = _
  cases readPieces mode (isLeading n) s <;> rfl

/-- A control character is no half of a pair. -/
theorem isLeading_control {n : Nat} (h : n < 0x20) : isLeading n = false := by
  simp [isLeading]
  omega

theorem isTrailing_control {n : Nat} (h : n < 0x20) : isTrailing n = false := by
  simp [isTrailing]
  omega

theorem checkUnit_control (mode : Mode) {n : Nat} (h : n < 0x20) (s : List Char) :
    checkUnit mode false n s = .ok () := by
  cases mode <;> simp [checkUnit, isLeading_control h, isTrailing_control h]

theorem readPieces_short {mode : Mode} (b : Bool) {e c : Char} (h : shortEscape? e = some c)
    (s : List Char) :
    readPieces mode b ('\\' :: e :: s) =
      (readPieces mode false s).map fun p => (.char c :: p.1, p.2) := by
  have notUnit : e ≠ 'u' := by
    rintro rfl
    cases h
  rw [readPieces]
  · simp only [h]
    cases readPieces mode false s <;> rfl
  all_goals simp [notUnit]

theorem readPieces_char {mode : Mode} (b : Bool) {c : Char} (hq : c ≠ '"') (hb : c ≠ '\\')
    (hc : ¬c.toNat < 0x20) (s : List Char) :
    readPieces mode b (c :: s) =
      (readPieces mode false s).map fun p => (.char c :: p.1, p.2) := by
  rw [readPieces]
  · rw [if_neg hc]
    cases readPieces mode false s <;> rfl
  all_goals simp_all

theorem readPieces_escaped (mode : Mode) (c : Char) (s : List Char) :
    readPieces mode false (escaped c ++ s) =
      (readPieces mode false s).map fun p => (pieceOf c :: p.1, p.2) := by
  unfold escaped
  split
  · subst c; exact readPieces_short false rfl s
  split
  · subst c; exact readPieces_short false rfl s
  split
  · subst c; exact readPieces_short false rfl s
  split
  · subst c; exact readPieces_short false rfl s
  split
  · subst c; exact readPieces_short false rfl s
  split
  · subst c; exact readPieces_short false rfl s
  split
  · subst c; exact readPieces_short false rfl s
  rename_i hq hb h8 hf hn hr ht
  have long : hasShortEscape c = false := by
    simp [hasShortEscape, hq, hb, h8, hf, hn, hr, ht]
  split
  · rename_i control
    rw [pieceOf, if_pos ⟨long, control⟩, ← isLeading_control control]
    exact readPieces_unit (unit?_control control)
      (by rw [isLeading_control control]; exact checkUnit_control mode control s)
  · rename_i plain
    rw [pieceOf, if_neg fun h => plain h.2]
    exact readPieces_char false hq hb plain s

theorem readPieces_quoted (mode : Mode) (s rest : List Char) :
    readPieces mode false (s.flatMap escaped ++ '"' :: rest) = .ok (s.map pieceOf, rest) := by
  induction s with
  | nil => simp [readPieces]
  | cons c s ih =>
    rw [List.flatMap_cons, List.append_assoc, readPieces_escaped, ih]
    rfl

theorem joinPieces_pieces (s : List Char) : joinPieces (s.map pieceOf) = some s := by
  induction s with
  | nil => rfl
  | cons c s ih =>
    rw [List.map_cons]
    by_cases control : hasShortEscape c = false ∧ c.toNat < 0x20
    · have low := isLeading_control control.2
      have low' := isTrailing_control control.2
      rw [pieceOf, if_pos control]
      cases s with
      | nil => simp [joinPieces, low, low']
      | cons d s =>
        rw [List.map_cons] at ih ⊢
        cases hd : pieceOf d with
        | char e =>
          rw [hd] at ih
          rw [joinPieces, ih]
          · simp [low, low']
          · simp
        | unit n =>
          rw [hd] at ih
          rw [joinPieces, ih]
          simp [low, low']
    · rw [pieceOf, if_neg control, joinPieces, ih]
      rfl

theorem readText_quoted (mode : Mode) (s rest : List Char) :
    readText mode (s.flatMap escaped ++ '"' :: rest) = .ok (some (String.ofList s), rest) := by
  rw [readText, readPieces_quoted]
  show Except.ok ((joinPieces (s.map pieceOf)).map String.ofList, rest) = _
  rw [joinPieces_pieces]
  rfl

/-! ## Numbers -/

/-- What follows a number does not carry it on. -/
def EndsNumber (rest : List Char) : Prop :=
  ∀ c ∈ rest.head?, c.isDigit = false ∧ c ≠ '.' ∧ c ≠ 'e' ∧ c ≠ 'E'

theorem endsNumber_nil : EndsNumber [] := by
  intro c h; cases h

theorem endsNumber_cons {c : Char} (h : c.isDigit = false ∧ c ≠ '.' ∧ c ≠ 'e' ∧ c ≠ 'E')
    (rest : List Char) : EndsNumber (c :: rest) := by
  intro d hd; cases hd; exact h

/-- No numeral of two digits begins with zero. -/
theorem numeral_head_ne_zero (n : Nat) : ∀ d e ds, numeral n = d :: e :: ds → d ≠ '0' := by
  induction n using Nat.strongRecOn with
  | ind n ih =>
    intro d e ds h
    rw [numeral, Nat.toDigits_eq_if (by decide)] at h
    split at h
    · cases h
    · rename_i big
      cases hq : Nat.toDigits 10 (n / 10) with
      | nil => exact absurd hq (numeral_ne_nil _)
      | cons d' ds' =>
        rw [hq, List.cons_append, List.cons.injEq] at h
        rw [← h.1]
        cases ds' with
        | cons e' ds' => exact ih (n / 10) (by omega) d' e' ds' hq
        | nil =>
          rw [Nat.toDigits_eq_if (by decide)] at hq
          split at hq
          · cases hq
            intro zero
            have := Nat.digitChar_eq_zero.mp zero
            omega
          · exact absurd (congrArg List.length hq) (by simp)

theorem readWhole_numeral (n : Nat) {rest : List Char} (h : EndsNumber rest) :
    readWhole (numeral n ++ rest) = .ok (n, rest) := by
  have digits : leadingDigits (numeral n ++ rest) = numeral n :=
    leadingDigits_append_of_head numeral_isDigit fun c hc => (h c hc).1
  have value := numeralValue_numeral n
  unfold readWhole
  rw [digits]
  split
  · rename_i none_left
    exact absurd none_left (numeral_ne_nil n)
  · rename_i zero
    rw [zero] at value ⊢
    rw [← value]
    rfl
  · rename_i e ds zeros
    exact absurd rfl (numeral_head_ne_zero n _ e ds zeros)
  · rename_i d ds _ _ some_left
    rw [some_left] at value ⊢
    rw [value, List.drop_append_of_le_length (Nat.le_refl _), List.drop_length]
    rfl

theorem readFraction_none {rest : List Char} (h : EndsNumber rest) :
    readFraction rest = .ok ([], rest) := by
  cases rest with
  | nil => rfl
  | cons c rest =>
    have := (h c rfl).2.1
    unfold readFraction
    split
    · rename_i dot
      cases dot
      exact absurd rfl this
    · rfl

theorem readExponent_none (b : Bool) {rest : List Char} (h : EndsNumber rest) :
    readExponent b rest = .ok (none, rest) := by
  cases rest with
  | nil => rfl
  | cons c rest =>
    obtain ⟨_, _, he, hE⟩ := h c rfl
    simp [readExponent, he, hE]

theorem readUnsigned_numeral (mode : Mode) (n : Nat) {rest : List Char} (h : EndsNumber rest) :
    readUnsigned mode false (numeral n ++ rest) = .ok (Numeral.ofNat n, rest) := by
  rw [readUnsigned, readWhole_numeral n h]
  show (readFraction rest >>= _) = _
  rw [readFraction_none h]
  show (readExponent _ rest >>= _) = _
  rw [readExponent_none _ h]
  rfl

theorem numeral_cons (n : Nat) : ∃ d ds, numeral n = d :: ds ∧ d.isDigit = true := by
  cases shown : numeral n with
  | nil => exact absurd shown (numeral_ne_nil n)
  | cons d ds => exact ⟨d, ds, rfl, numeral_isDigit d (shown ▸ List.mem_cons_self)⟩

theorem readNumeral_numeral (mode : Mode) (n : Nat) {rest : List Char} (h : EndsNumber rest) :
    readNumeral mode (numeral n ++ rest) = .ok (Numeral.ofNat n, rest) := by
  have unsigned := readUnsigned_numeral mode n h
  unfold readNumeral
  split
  · rename_i minus
    obtain ⟨d, ds, shown, digit⟩ := numeral_cons n
    rw [shown] at minus
    cases minus
    cases digit
  · exact unsigned

theorem readScalar_numeral (n : Nat) {rest : List Char} (h : EndsNumber rest) :
    readScalar .loose (numeral n ++ rest) = .ok (ofNat n, rest) := by
  have read := readNumeral_numeral .loose n h
  obtain ⟨d, ds, shown, digit⟩ := numeral_cons n
  have other : d ≠ 'n' ∧ d ≠ 't' ∧ d ≠ 'f' := by
    refine ⟨?_, ?_, ?_⟩ <;> (rintro rfl; cases digit)
  rw [shown, List.cons_append] at read ⊢
  rw [readScalar, if_neg other.1, if_neg other.2.1, if_neg other.2.2, if_pos (.inr digit),
    readNumber, read]
  show (if Mode.loose = .strict ∧ (Numeral.ofNat n).number? = none then
    fail .numberTooGreat rest 0 else .ok (ofNat n, rest)) = _
  rw [if_neg (by rintro ⟨strict, _⟩; cases strict)]

/-! ## Documents -/

mutual

/-- Numbers are counts, strings and names are texts. -/
def IsPlain : Json → Prop
  | .null | .bool _ | .str _ => True
  | .num n => ∃ k, n = Numeral.ofNat k
  | .unpaired => False
  | .arr items => IsPlainItems items
  | .obj members => IsPlainMembers members

def IsPlainItems : List Json → Prop
  | [] => True
  | j :: rest => IsPlain j ∧ IsPlainItems rest

def IsPlainMembers : List (Option String × Json) → Prop
  | [] => True
  | (name, j) :: rest => name.isSome = true ∧ IsPlain j ∧ IsPlainMembers rest

end

/-- What is written after an item, given the items after it. -/
def printItemsTail : List Json → List Char
  | [] => []
  | j :: rest => ',' :: printItems (j :: rest)

def printMembersTail : List (Option String × Json) → List Char
  | [] => []
  | m :: rest => ',' :: printMembers (m :: rest)

theorem printMembersTail_cons (m : Option String × Json) (rest : List (Option String × Json)) :
    printMembersTail (m :: rest) = ',' :: printMembers (m :: rest) := rfl

theorem printItems_cons (j : Json) (rest : List Json) :
    printItems (j :: rest) = print j ++ printItemsTail rest := by
  cases rest <;> simp [printItems, printItemsTail]

theorem printMembers_cons (name : Option String) (j : Json)
    (rest : List (Option String × Json)) :
    printMembers ((name, j) :: rest) =
      printName name ++ ':' :: (print j ++ printMembersTail rest) := by
  cases rest <;> simp [printMembers, printMembersTail]

theorem skipSpace_cons {c : Char} (h : isSpace c = false) (s : List Char) :
    skipSpace (c :: s) = c :: s := by
  simp [skipSpace, h]

/-- A container ends the number that stands last in it. -/
theorem endsNumber_itemsTail (rest : List Json) (s : List Char) :
    EndsNumber (printItemsTail rest ++ ']' :: s) := by
  cases rest <;> exact endsNumber_cons (by decide) _

theorem endsNumber_membersTail (rest : List (Option String × Json)) (s : List Char) :
    EndsNumber (printMembersTail rest ++ '\x7d' :: s) := by
  cases rest <;> exact endsNumber_cons (by decide) _

theorem isSpace_of_isDigit {c : Char} (h : c.isDigit = true) : isSpace c = false := by
  cases space : isSpace c with
  | false => rfl
  | true =>
    simp only [isSpace, Bool.or_eq_true, beq_iff_eq] at space
    rcases space with ((rfl | rfl) | rfl) | rfl <;> cases h

theorem print_ofNat (n : Nat) : print (ofNat n) = numeral n := by
  simp [ofNat, print, Numeral.print, Numeral.sign, Numeral.ofNat, Numeral.fractionPart,
    Numeral.exponentPart]

/-- The first character of a document is neither a blank nor the end of a list. -/
theorem print_head {j : Json} (h : IsPlain j) :
    ∃ c s, print j = c :: s ∧ isSpace c = false ∧ c ≠ ']' := by
  cases j with
  | null => exact ⟨_, _, rfl, by decide, by decide⟩
  | bool b => cases b <;> exact ⟨_, _, rfl, by decide, by decide⟩
  | num n =>
    obtain ⟨k, rfl⟩ := h
    obtain ⟨d, ds, shown, digit⟩ := numeral_cons k
    refine ⟨d, ds, (print_ofNat k).trans shown, isSpace_of_isDigit digit, ?_⟩
    rintro rfl; cases digit
  | str s => exact ⟨'"', _, by rw [print, quoted, List.cons_append], by decide, by decide⟩
  | unpaired => exact h.elim
  | arr items => exact ⟨'[', _, by rw [print, List.cons_append], by decide, by decide⟩
  | obj members => exact ⟨'\x7b', _, by rw [print, List.cons_append], by decide, by decide⟩

/-! ## Steps of the reader -/

section

variable {mode : Mode} {fuel depth index : Nat} {c : Char} {s t u v rest : List Char} {j : Json}

theorem readValue_scalar (shown : skipSpace s = c :: u) (h : c ≠ '"' ∧ c ≠ '[' ∧ c ≠ '\x7b') :
    readValue mode (fuel + 1) depth s = readScalar mode (c :: u) := by
  rw [readValue, shown]
  split <;> simp_all

theorem readValue_list (shown : skipSpace s = '[' :: u) (first : skipSpace u = c :: v)
    (h : c ≠ ']') :
    readValue mode (fuel + 1) (depth + 1) s =
      (readItems mode fuel depth 0 (c :: v)).map fun p => (.arr p.1, p.2) := by
  rw [readValue, shown]
  simp only [first]
  split
  · contradiction
  · simp_all
  · cases readItems mode fuel depth 0 (c :: v) <;> rfl

theorem readValue_object {name : Option String} (shown : skipSpace s = '\x7b' :: u)
    (quoted : skipSpace u = '"' :: v) (literal : readText mode v = .ok (name, t))
    (plain : embeds mode name = false) :
    readValue mode (fuel + 1) (depth + 1) s =
      (readMembers mode fuel depth name t).map fun p => (.obj p.1, p.2) := by
  rw [readValue, shown]
  simp only [firstMember_name_iff.mpr quoted, literal, bind, Except.bind, plain, if_true]
  rw [if_neg (by simp)]
  cases readMembers mode fuel depth name t <;> rfl

theorem under_ok {α : Type} (step : Step) (a : α) : under step (.ok a) = .ok a := rfl

theorem readItems_last (first : readValue mode fuel depth s = .ok (j, t))
    (closed : skipSpace t = ']' :: rest) :
    readItems mode (fuel + 1) depth index s = .ok ([j], rest) := by
  rw [readItems, first]
  simp only [under_ok, bind, Except.bind, closed]
  rfl

theorem readItems_more {items : List Json} (first : readValue mode fuel depth s = .ok (j, t))
    (parted : skipSpace t = ',' :: u) (shown : skipSpace u = c :: v) (h : c ≠ ']')
    (others : readItems mode fuel depth (index + 1) (c :: v) = .ok (items, rest)) :
    readItems mode (fuel + 1) depth index s = .ok (j :: items, rest) := by
  rw [readItems, first]
  simp only [under_ok, bind, Except.bind, parted, shown]
  split
  · contradiction
  · simp_all
  · rw [others]
    rfl

theorem readMembers_last {name : Option String} (colon : expectColon s = .ok u)
    (first : readValue mode fuel depth u = .ok (j, t)) (closed : skipSpace t = '\x7d' :: rest) :
    readMembers mode (fuel + 1) depth name s = .ok ([(name, j)], rest) := by
  rw [readMembers, colon]
  simp only [bind, Except.bind, first, under_ok, nextMember_end_iff.mpr closed]
  rfl

theorem readMembers_more {name next : Option String} {w : List Char}
    {members : List (Option String × Json)} (colon : expectColon s = .ok u)
    (first : readValue mode fuel depth u = .ok (j, t)) (parted : skipSpace t = ',' :: v)
    (quoted : skipSpace v = '"' :: w) {x : List Char} (literal : readText mode w = .ok (next, x))
    (others : readMembers mode fuel depth next x = .ok (members, rest)) :
    readMembers mode (fuel + 1) depth name s = .ok ((name, j) :: members, rest) := by
  rw [readMembers, colon]
  simp only [bind, Except.bind, first, under_ok, nextMember_name_iff.mpr ⟨v, parted, quoted⟩,
    if_true, literal, others]
  rfl

end

/-! ## Items and members -/

theorem readText_printed (mode : Mode) (name : String) (s : List Char) :
    readText mode (name.toList.flatMap escaped ++ '"' :: s) = .ok (some name, s) := by
  rw [readText_quoted, String.ofList_toList]

theorem readValue_printed {fuel depth : Nat} (name : String) (s : List Char) :
    readValue .loose (fuel + 1) (depth + 1) ('\x7b' :: (printName (some name) ++ s)) =
      (readMembers .loose fuel depth (some name) s).map fun p => (.obj p.1, p.2) := by
  simp only [printName, quoted, List.cons_append, List.append_assoc, List.nil_append]
  exact readValue_object (skipSpace_cons (by decide) _) (skipSpace_cons (by decide) _)
    (readText_printed .loose name s) rfl

/-- After an item comes the end of the list or, past a comma, the next item. -/
theorem readItems_step {fuel depth index : Nat} {j : Json} {items : List Json}
    {s rest : List Char}
    (h : readValue .loose fuel depth s = .ok (j, printItemsTail items ++ ']' :: rest))
    (plain : IsPlainItems items)
    (next : ∀ k ks, items = k :: ks → readItems .loose fuel depth (index + 1)
      (printItems items ++ ']' :: rest) = .ok (items, rest)) :
    readItems .loose (fuel + 1) depth index s = .ok (j :: items, rest) := by
  cases items with
  | nil => exact readItems_last h (skipSpace_cons (by decide) _)
  | cons k ks =>
    obtain ⟨c, t, hp, hs, hc⟩ := print_head plain.1
    have ih := next k ks rfl
    rw [printItems_cons, hp, List.cons_append, List.cons_append] at ih
    rw [printItemsTail, printItems_cons, hp, List.cons_append, List.cons_append] at h
    exact readItems_more h (skipSpace_cons (by decide) _) (skipSpace_cons hs _) hc ih

theorem readMembers_step {fuel depth : Nat} {name : Option String} {j : Json}
    {members : List (Option String × Json)} {s rest : List Char}
    (h : readValue .loose fuel depth s = .ok (j, printMembersTail members ++ '\x7d' :: rest))
    (plain : IsPlainMembers members)
    (next : ∀ n k ks, members = (n, k) :: ks → readMembers .loose fuel depth n
      (':' :: (print k ++ printMembersTail ks ++ '\x7d' :: rest)) = .ok (members, rest)) :
    readMembers .loose (fuel + 1) depth name (':' :: s) = .ok ((name, j) :: members, rest) := by
  cases members with
  | nil => exact readMembers_last rfl h (skipSpace_cons (by decide) _)
  | cons m ks =>
    obtain ⟨n, k⟩ := m
    obtain ⟨n, rfl⟩ := Option.isSome_iff_exists.mp plain.1
    have ih := next (some n) k ks rfl
    rw [printMembersTail, printMembers_cons, List.cons_append] at h
    simp only [printName, quoted, List.cons_append, List.append_assoc, List.nil_append] at h
    rw [List.append_assoc] at ih
    exact readMembers_more rfl h (skipSpace_cons (by decide) _) (skipSpace_cons (by decide) _)
      (readText_printed .loose n _) ih

/-! ## Whole documents -/

mutual

theorem readValue_print : ∀ (j : Json) (fuel depth : Nat) (rest : List Char), IsPlain j →
    2 * (print j).length ≤ fuel → (print j).length ≤ depth → EndsNumber rest →
    readValue .loose fuel depth (print j ++ rest) = .ok (j, rest)
  | j, 0, _, _, h, hf, _, _ => by
    obtain ⟨c, s, hp, _⟩ := print_head h
    rw [hp] at hf
    cases hf
  | .null, fuel + 1, depth, rest, _, _, _, _ =>
    readValue_scalar (skipSpace_cons (by decide) _) (by decide)
  | .bool true, fuel + 1, depth, rest, _, _, _, _ =>
    readValue_scalar (skipSpace_cons (by decide) _) (by decide)
  | .bool false, fuel + 1, depth, rest, _, _, _, _ =>
    readValue_scalar (skipSpace_cons (by decide) _) (by decide)
  | .num n, fuel + 1, depth, rest, h, _, _, hr => by
    obtain ⟨c, s, hp, hs, _⟩ := print_head h
    obtain ⟨k, rfl⟩ := h
    have printed : print (.num (Numeral.ofNat k)) = numeral k := print_ofNat k
    have digit : c.isDigit = true := numeral_isDigit c (by rw [← printed, hp]; simp)
    rw [hp, List.cons_append, readValue_scalar (skipSpace_cons hs _), ← List.cons_append, ← hp,
      printed]
    · exact readScalar_numeral k hr
    · refine ⟨?_, ?_, ?_⟩ <;> (rintro rfl; cases digit)
  | .str s, fuel + 1, depth, rest, _, _, _, _ => by
    rw [print, quoted, List.append_assoc, List.cons_append, readValue,
      skipSpace_cons (by decide)]
    show (readText .loose (s.toList.flatMap escaped ++ '"' :: rest) >>= _) = _
    rw [readText_quoted, String.ofList_toList]
    rfl
  | .arr items, fuel + 1, 0, rest, h, hf, hd, _ => by
    rw [print] at hd
    cases hd
  | .arr [], fuel + 1, depth + 1, rest, _, _, _, _ => by
    simp only [print, printItems, List.cons_append, List.nil_append]
    rw [readValue]
    rfl
  | .arr (j :: items), fuel + 1, depth + 1, rest, h, hf, hd, _ => by
    simp only [print, List.length_append, List.length_cons] at hf hd
    have ih := readItems_print j items fuel depth 0 rest h (by omega) (by omega)
    obtain ⟨c, s, hp, hs, hc⟩ := print_head h.1
    simp only [printItems_cons, hp, List.cons_append, List.append_assoc] at ih
    simp only [print, printItems_cons, hp, List.cons_append, List.append_assoc, List.nil_append]
    rw [readValue_list (skipSpace_cons (by decide) _) (skipSpace_cons hs _) hc, ih]
    rfl
  | .obj members, fuel + 1, 0, rest, h, hf, hd, _ => by
    rw [print] at hd
    cases hd
  | .obj [], fuel + 1, depth + 1, rest, _, _, _, _ => by
    simp only [print, printMembers, List.cons_append, List.nil_append]
    rw [readValue]
    rfl
  | .obj ((name, j) :: members), fuel + 1, depth + 1, rest, h, hf, hd, _ => by
    simp only [print, printMembers_cons, List.length_append, List.length_cons] at hf hd
    have ih := readMembers_print name j members fuel depth rest h
      (by simp only [List.length_append]; omega) (by simp only [List.length_append]; omega)
    obtain ⟨n, rfl⟩ := Option.isSome_iff_exists.mp h.1
    rw [print, printMembers_cons, List.cons_append, List.cons_append, List.append_assoc,
      List.append_assoc, readValue_printed]
    show (readMembers .loose fuel depth (some n)
      (':' :: ((print j ++ printMembersTail members) ++ (['\x7d'] ++ rest)))).map _ = _
    rw [List.singleton_append, ih]
    rfl
termination_by j => sizeOf j

theorem readItems_print : ∀ (j : Json) (items : List Json) (fuel depth index : Nat)
    (rest : List Char), IsPlainItems (j :: items) →
    2 * (printItems (j :: items)).length + 1 ≤ fuel →
    (printItems (j :: items)).length ≤ depth →
    readItems .loose fuel depth index (printItems (j :: items) ++ ']' :: rest) =
      .ok (j :: items, rest)
  | j, items, 0, depth, index, rest, h, hf, hd => by cases hf
  | j, items, fuel + 1, depth, index, rest, h, hf, hd => by
    simp only [printItems_cons, List.length_append] at hf hd
    rw [printItems_cons, List.append_assoc]
    refine readItems_step (readValue_print j fuel depth _ h.1 (by omega) (by omega)
      (endsNumber_itemsTail items rest)) h.2 ?_
    rintro k ks rfl
    simp only [printItemsTail, List.length_cons] at hf hd
    exact readItems_print k ks fuel depth (index + 1) rest h.2 (by omega) (by omega)
termination_by j items => sizeOf (j :: items)

theorem readMembers_print : ∀ (name : Option String) (j : Json)
    (members : List (Option String × Json)) (fuel depth : Nat) (rest : List Char),
    IsPlainMembers ((name, j) :: members) →
    2 * (print j ++ printMembersTail members).length + 1 ≤ fuel →
    (print j ++ printMembersTail members).length ≤ depth →
    readMembers .loose fuel depth name
        (':' :: (print j ++ printMembersTail members ++ '\x7d' :: rest)) =
      .ok ((name, j) :: members, rest)
  | name, j, members, 0, depth, rest, h, hf, hd => by cases hf
  | name, j, members, fuel + 1, depth, rest, h, hf, hd => by
    simp only [List.length_append] at hf hd
    rw [List.append_assoc]
    refine readMembers_step (readValue_print j fuel depth _ h.2.1 (by omega) (by omega)
      (endsNumber_membersTail members rest)) h.2.2 ?_
    rintro n k ks rfl
    simp only [printMembersTail_cons, printMembers_cons, List.length_cons,
      List.length_append] at hf hd
    exact readMembers_print n k ks fuel depth rest h.2.2
      (by simp only [List.length_append]; omega) (by simp only [List.length_append]; omega)
termination_by name j members => sizeOf ((name, j) :: members)

end

theorem readLoosely_print {j : Json} (h : IsPlain j) : readLoosely (print j) = .ok j := by
  have read := readValue_print j (fuelFor (print j)) (print j).length [] h
    (by unfold fuelFor; omega) (Nat.le_refl _) endsNumber_nil
  rw [List.append_nil] at read
  rw [readLoosely, read]
  rfl

theorem parse?_compact {j : Json} (h : IsPlain j) : parse? j.compact = some j := by
  rw [parse?, compact, String.toList_ofList, readLoosely_print h]
  rfl

end Json
end TextCatalog
