import TextCatalog.Proofs.Json.Grammar
import TextCatalog.Proofs.Json.Length
import TextCatalog.Proofs.Json.RoundTrip
import TextCatalog.Proofs.Traversal

/-!
# TextCatalog.Proofs.Json.Literal

Strictly read, strings, numbers and words are those of the grammar.

* `readText_sound`, `WritesText.read` — strings.
* `readWhole_eq_ok_iff`, `readFraction_eq_ok_iff`, `readExponent_eq_ok_iff` — the parts of a number.
* `readNumber_eq_ok_iff` — a number is read if it is finite.
* `readScalar_eq_ok_iff` — a number, or a word that is a value.
-/

namespace TextCatalog
namespace Json

open Text

variable {s rest t : List Char} {b : Bool} {n : Nat}

/-! ## Strings -/

theorem not_isSurrogate_iff : ¬IsSurrogate n ↔ isLeading n = false ∧ isTrailing n = false := by
  simp [IsSurrogate]

theorem isLeading_of_isTrailing (h : isTrailing n = true) : isLeading n = false := by
  simp only [isTrailing, Bool.and_eq_true, decide_eq_true_eq] at h
  simp only [isLeading, Bool.and_eq_false_iff, decide_eq_false_iff_not]
  omega

theorem joinPieces_alone (alone : ¬IsSurrogate n) (ps : List Piece) :
    joinPieces (.unit n :: ps) = (joinPieces ps).map (Char.ofNat n :: ·) := by
  obtain ⟨notLeading, notTrailing⟩ := not_isSurrogate_iff.mp alone
  match ps with
  | [] => simp [joinPieces, notLeading, notTrailing]
  | .char _ :: _ => simp [joinPieces, notLeading, notTrailing]
  | .unit _ :: _ => simp [joinPieces, notLeading, notTrailing]

theorem joinPieces_pair {high low : Nat} (leading : isLeading high = true)
    (trailing : isTrailing low = true) (ps : List Piece) :
    joinPieces (.unit high :: .unit low :: ps) =
      (joinPieces ps).map (Char.ofNat (pairValue high low) :: ·) := by
  simp [joinPieces, leading, trailing]

/-- A code unit may stand where it does. -/
theorem checkUnit_eq_ok_iff : checkUnit .strict b n rest = .ok () ↔
    b = isTrailing n ∧ (isLeading n = true → expectUnit rest = .ok ()) := by
  unfold checkUnit
  by_cases placed : b = isTrailing n
  · subst placed
    cases leading : isLeading n <;> simp
  · simp [placed, fail]

theorem expectUnit_eq_ok (h : expectUnit s = .ok ()) : ∃ u, s = '\\' :: 'u' :: u := by
  unfold expectUnit at h
  split at h
  · exact ⟨_, rfl⟩
  all_goals cases h

/--
What the pieces of a text denote. After the leading half of a pair they go on with the other half,
and the text is that of the whole pair.
-/
structure Denote (afterLeading : Bool) (s : List Char) (ps : List Piece) (rest : List Char) :
    Prop where
  apart : afterLeading = false → ∃ t, joinPieces ps = some t ∧ WritesText s t rest
  paired : afterLeading = true → expectUnit s = .ok () → ∀ {w x y z : Char} {high : Nat},
    unit? w x y z = some high → isLeading high = true →
      ∃ t, joinPieces (.unit high :: ps) = some t ∧
        WritesText ('\\' :: 'u' :: w :: x :: y :: z :: s) t rest

theorem Denote.of_apart {ps : List Piece} (noUnit : ∀ u, s ≠ '\\' :: 'u' :: u)
    (h : ∃ t, joinPieces ps = some t ∧ WritesText s t rest) : Denote b s ps rest := by
  refine ⟨fun _ => h, fun _ follows => ?_⟩
  obtain ⟨u, shown⟩ := expectUnit_eq_ok follows
  exact absurd shown (noUnit u)

theorem Denote.unit {w x y z : Char} {ps : List Piece} (hex : unit? w x y z = some n)
    (check : checkUnit .strict b n s = .ok ()) (h : Denote (isLeading n) s ps rest) :
    Denote b ('\\' :: 'u' :: w :: x :: y :: z :: s) (.unit n :: ps) rest := by
  obtain ⟨placed, follows⟩ := checkUnit_eq_ok_iff.mp check
  constructor
  · rintro rfl
    cases leading : isLeading n with
    | true => exact h.paired leading (follows leading) hex leading
    | false =>
      obtain ⟨t, joined, written⟩ := h.apart leading
      have alone : ¬IsSurrogate n := not_isSurrogate_iff.mpr ⟨leading, placed.symm⟩
      exact ⟨Char.ofNat n :: t, by rw [joinPieces_alone alone, joined]; rfl,
        .unit hex alone written⟩
  · rintro rfl _ w' x' y' z' high hex' leading
    have trailing : isTrailing n = true := placed.symm
    obtain ⟨t, joined, written⟩ := h.apart (isLeading_of_isTrailing trailing)
    exact ⟨Char.ofNat (pairValue high n) :: t,
      by rw [joinPieces_pair leading trailing, joined]; rfl,
      .pair hex' leading hex trailing written⟩

theorem readPieces_denote {ps : List Piece} (read : readPieces .strict b s = .ok (ps, rest)) :
    Denote b s ps rest := by
  fun_induction readPieces .strict b s generalizing ps rest with
  | case2 =>
    cases read
    exact .of_apart (by simp) ⟨[], rfl, .close⟩
  | case4 b w x y z s n hex ih =>
    obtain ⟨⟨⟩, check, read⟩ := bind_eq_ok read
    obtain ⟨⟨ps', rest'⟩, more, read⟩ := bind_eq_ok read
    cases read
    exact .unit hex check (ih more)
  | case8 b e s notLong notUnit c escape ih =>
    obtain ⟨⟨ps', rest'⟩, more, read⟩ := bind_eq_ok read
    cases read
    obtain ⟨t, joined, written⟩ := (ih more).apart rfl
    refine .of_apart ?_ ⟨c :: t, by rw [joinPieces, joined]; rfl, .short escape written⟩
    rintro u ⟨⟩
    exact notUnit rfl
  | case11 b c s noQuote _ _ notEscape notLast printed ih =>
    have plain : c ≠ '\\' := fun same => by
      cases s with
      | nil => exact notLast same rfl
      | cons e s => exact notEscape e s same rfl
    obtain ⟨⟨ps', rest'⟩, more, read⟩ := bind_eq_ok read
    cases read
    obtain ⟨t, joined, written⟩ := (ih more).apart rfl
    refine .of_apart ?_ ⟨c :: t, by rw [joinPieces, joined]; rfl,
      .plain noQuote plain (Nat.not_lt.mp printed) written⟩
    rintro u ⟨⟩
    exact plain rfl
  | _ => cases read

theorem readText_sound {text : Option String} (read : readText .strict s = .ok (text, rest)) :
    ∃ t, text = some (String.ofList t) ∧ WritesText s t rest := by
  obtain ⟨⟨ps, rest'⟩, pieces, read⟩ := bind_eq_ok read
  obtain ⟨t, joined, written⟩ := (readPieces_denote pieces).apart rfl
  cases read
  exact ⟨t, by rw [joined]; rfl, written⟩

theorem WritesText.pieces (h : WritesText s t rest) :
    ∃ ps, readPieces .strict false s = .ok (ps, rest) ∧ joinPieces ps = some t := by
  induction h with
  | close => exact ⟨[], by rw [readPieces], rfl⟩
  | @plain c s t rest noQuote noEscape printed _ ih =>
    obtain ⟨ps, read, joined⟩ := ih
    refine ⟨.char c :: ps, ?_, by rw [joinPieces, joined]; rfl⟩
    rw [readPieces_char false noQuote noEscape (Nat.not_lt.mpr printed), read]
    rfl
  | @short e c s t rest escape _ ih =>
    obtain ⟨ps, read, joined⟩ := ih
    refine ⟨.char c :: ps, ?_, by rw [joinPieces, joined]; rfl⟩
    rw [readPieces_short false escape, read]
    rfl
  | @unit w x y z n s t rest hex alone _ ih =>
    obtain ⟨ps, read, joined⟩ := ih
    obtain ⟨notLeading, notTrailing⟩ := not_isSurrogate_iff.mp alone
    refine ⟨.unit n :: ps, ?_, by rw [joinPieces_alone alone, joined]; rfl⟩
    have check : checkUnit .strict false n s = .ok () :=
      checkUnit_eq_ok_iff.mpr ⟨notTrailing.symm, by simp [notLeading]⟩
    rw [readPieces_unit hex check, notLeading, read]
    rfl
  | @pair w x y z w' x' y' z' high low s t rest hex leading hex' trailing _ ih =>
    obtain ⟨ps, read, joined⟩ := ih
    have notTrailing : isTrailing high = false := by
      cases same : isTrailing high with
      | false => rfl
      | true => rw [isLeading_of_isTrailing same] at leading; cases leading
    have notLeading := isLeading_of_isTrailing trailing
    refine ⟨.unit high :: .unit low :: ps, ?_,
      by rw [joinPieces_pair leading trailing, joined]; rfl⟩
    have first : checkUnit .strict false high ('\\' :: 'u' :: w' :: x' :: y' :: z' :: s) = .ok () :=
      checkUnit_eq_ok_iff.mpr ⟨notTrailing.symm, fun _ => rfl⟩
    have second : checkUnit .strict true low s = .ok () :=
      checkUnit_eq_ok_iff.mpr ⟨trailing.symm, by simp [notLeading]⟩
    rw [readPieces_unit hex first, leading, readPieces_unit hex' second, notLeading,
      read]
    rfl

theorem WritesText.read (h : WritesText s t rest) :
    readText .strict s = .ok (some (String.ofList t), rest) := by
  obtain ⟨ps, read, joined⟩ := h.pieces
  rw [readText, read]
  show Except.ok ((joinPieces ps).map String.ofList, rest) = _
  rw [joined]
  rfl

theorem writesText_of_readText {text : String}
    (read : readText .strict s = .ok (some text, rest)) : WritesText s text.toList rest := by
  obtain ⟨t, same, written⟩ := readText_sound read
  rwa [Option.some.inj same, String.toList_ofList]

/-! ## Digits -/

theorem IsRun.leading {ds : List Char} (h : IsRun s ds rest) : leadingDigits s = ds := by
  rw [h.split]
  exact leadingDigits_append_of_head h.digits h.ends

theorem IsRun.drop {ds : List Char} (h : IsRun s ds rest) : s.drop ds.length = rest := by
  rw [h.split, List.drop_left]

theorem isRun_leadingDigits (ne : leadingDigits s ≠ []) :
    IsRun s (leadingDigits s) (s.drop (leadingDigits s).length) := by
  have split : leadingDigits s ++ s.dropWhile Char.isDigit = s := List.takeWhile_append_dropWhile
  have left : s.drop (leadingDigits s).length = s.dropWhile Char.isDigit :=
    calc s.drop (leadingDigits s).length
      _ = (leadingDigits s ++ s.dropWhile Char.isDigit).drop (leadingDigits s).length := by
        rw [split]
      _ = s.dropWhile Char.isDigit := List.drop_left
  have stop := List.head?_dropWhile_not Char.isDigit s
  rw [left]
  refine ⟨split.symm, ne, fun c mem => List.mem_takeWhile_imp mem, fun c head => ?_⟩
  rw [Option.mem_def.mp head] at stop
  exact stop

theorem isRun_of_eq {d : Char} {ds : List Char} (h : leadingDigits s = d :: ds) :
    IsRun s (d :: ds) (s.drop (d :: ds).length) := by
  rw [← h]
  exact isRun_leadingDigits (by simp [h])

theorem IsRun.head {c : Char} {ds : List Char} (h : IsRun (c :: s) ds rest) : c.isDigit = true := by
  obtain ⟨split, ne, digits, _⟩ := h
  cases ds with
  | nil => exact absurd rfl ne
  | cons d ds =>
    cases split
    exact digits c List.mem_cons_self

theorem noDigit_ne_ok {α : Type} {a : α} : noDigit s ≠ .ok a := by
  cases s <;> simp [noDigit, failAtEnd, fail]

/-! ## Numbers -/

theorem readWhole_eq_ok_iff : readWhole s = .ok (n, rest) ↔ WritesWhole s n rest := by
  unfold readWhole
  constructor
  · intro read
    split at read
    · exact absurd read noDigit_ne_ok
    · rename_i digits
      cases read
      exact ⟨['0'], isRun_of_eq digits, .inl rfl, rfl⟩
    · cases read
    · rename_i d ds single more digits
      cases read
      refine ⟨d :: ds, isRun_of_eq digits, ?_, rfl⟩
      by_cases zero : d = '0'
      · subst zero
        cases ds with
        | nil => exact .inl rfl
        | cons e ds => exact (more e ds rfl rfl).elim
      · exact .inr (by simpa using zero)
  · rintro ⟨ds, run, form, rfl⟩
    rw [run.leading]
    rcases form with rfl | form
    · have left := run.drop
      simp only [List.length_singleton] at left
      rw [← left]
      rfl
    · split
      · exact absurd rfl run.ne
      · exact absurd rfl form
      · exact absurd rfl form
      · rw [run.drop]

theorem readFraction_eq_ok_iff {ds : List Char} :
    readFraction s = .ok (ds, rest) ↔ WritesFraction s ds rest := by
  unfold readFraction
  constructor
  · intro read
    split at read
    · split at read
      · exact absurd read noDigit_ne_ok
      · rename_i digits
        cases read
        exact .digits (isRun_of_eq digits)
    · rename_i noPoint
      cases read
      refine .absent ?_
      rintro c head rfl
      cases s with
      | nil => cases head
      | cons d s =>
        cases head
        exact noPoint s rfl
  · intro written
    cases written with
    | absent other =>
      split
      · exact absurd rfl (other '.' rfl)
      · rfl
    | digits run =>
      simp only [run.leading]
      split
      · exact absurd rfl run.ne
      · rw [run.drop]

theorem le_ofDigitChars (ds : List Char) (m : Nat) : m ≤ Nat.ofDigitChars 10 ds m := by
  rw [Nat.ofDigitChars_eq_ofDigitChars_zero]
  have power : 0 < 10 ^ ds.length := Nat.pow_pos (by decide)
  exact Nat.le_trans (Nat.le_mul_of_pos_left m power) (Nat.le_add_right _ _)

/-- Digits pass a limit somewhere if and only if they do so at their end. -/
theorem afterLimit?_eq_none_iff {limit m : Nat} (within : m ≤ limit) (ds : List Char) :
    afterLimit? limit m ds = none ↔ Nat.ofDigitChars 10 ds m ≤ limit := by
  induction ds generalizing m with
  | nil => simp [afterLimit?, within]
  | cons d ds ih =>
    rw [afterLimit?, Nat.ofDigitChars_cons, Nat.mul_comm 10 m]
    have more := le_ofDigitChars ds (m * 10 + (d.toNat - '0'.toNat))
    by_cases past : limit < m * 10 + (d.toNat - '0'.toNat)
    · have greater : ¬Nat.ofDigitChars 10 ds (m * 10 + (d.toNat - '0'.toNat)) ≤ limit := by omega
      simp only [if_pos past, greater, reduceCtorEq]
    · simp only [if_neg past]
      exact ih (Nat.not_lt.mp past)

theorem readExponentDigits_eq_ok_iff {isLimited : Bool} {sign : Int} {e : Option Int} :
    readExponentDigits isLimited sign s = .ok (e, rest) ↔
      ∃ ds, IsRun s ds rest ∧ e = some (sign * numeralValue ds) ∧
        (isLimited = true → numeralValue ds ≤ maxExponent) := by
  have limit := fun ds => afterLimit?_eq_none_iff (Nat.zero_le maxExponent) ds
  unfold readExponentDigits
  constructor
  · intro read
    split at read
    · exact absurd read noDigit_ne_ok
    · rename_i d ds digits
      dsimp only at read
      split at read
      · cases read
      · rename_i within
        cases read
        refine ⟨d :: ds, isRun_of_eq digits, rfl, ?_⟩
        rintro rfl
        exact (limit _).mp within
  · rintro ⟨ds, run, rfl, within⟩
    rw [run.leading]
    split
    · exact absurd rfl run.ne
    · rename_i d ds
      have none_left :
          (if isLimited then afterLimit? maxExponent 0 (d :: ds) else none) = none := by
        cases isLimited with
        | false => rfl
        | true => exact (limit _).mpr (within rfl)
      dsimp only
      rw [none_left, run.drop]

theorem readExponent_sound {isLimited : Bool} {e : Option Int}
    (read : readExponent isLimited s = .ok (e, rest)) :
    WritesExponent s e rest ∧ (isLimited = true → ∀ x ∈ e, x ≤ (maxExponent : Int)) := by
  unfold readExponent at read
  split at read
  · cases read
    exact ⟨.absent (by simp), by simp⟩
  · split at read
    · rename_i mark
      split at read
      · obtain ⟨ds, run, rfl, _⟩ := readExponentDigits_eq_ok_iff.mp read
        rw [Int.neg_one_mul]
        refine ⟨.minus mark run, ?_⟩
        rintro _ x ⟨⟩
        have least := Int.natCast_nonneg (numeralValue ds)
        have greatest := Int.natCast_nonneg maxExponent
        omega
      · obtain ⟨ds, run, rfl, within⟩ := readExponentDigits_eq_ok_iff.mp read
        rw [Int.one_mul]
        refine ⟨.plus mark run, ?_⟩
        rintro limited x ⟨⟩
        exact Int.ofNat_le.mpr (within limited)
      · obtain ⟨ds, run, rfl, within⟩ := readExponentDigits_eq_ok_iff.mp read
        rw [Int.one_mul]
        refine ⟨.unsigned mark run, ?_⟩
        rintro limited x ⟨⟩
        exact Int.ofNat_le.mpr (within limited)
    · rename_i other
      cases read
      refine ⟨.absent ?_, by simp⟩
      rintro c ⟨⟩
      exact other

theorem WritesExponent.read {isLimited : Bool} {e : Option Int} (h : WritesExponent s e rest)
    (within : isLimited = true → ∀ x ∈ e, x ≤ (maxExponent : Int)) :
    readExponent isLimited s = .ok (e, rest) := by
  cases h with
  | absent other =>
    cases s with
    | nil => rfl
    | cons c s => exact if_neg (other c rfl)
  | @minus c s ds rest mark run =>
    refine (if_pos mark).trans (readExponentDigits_eq_ok_iff.mpr ⟨ds, run, ?_, by simp⟩)
    rw [Int.neg_one_mul]
  | @plus c s ds rest mark run =>
    refine (if_pos mark).trans (readExponentDigits_eq_ok_iff.mpr ⟨ds, run, ?_, fun limited => ?_⟩)
    · rw [Int.one_mul]
    · exact Int.ofNat_le.mp (within limited _ rfl)
  | @unsigned c s ds rest mark run =>
    refine (if_pos mark).trans ?_
    split
    · cases run.head
    · cases run.head
    · refine readExponentDigits_eq_ok_iff.mpr ⟨ds, run, ?_, fun limited => ?_⟩
      · rw [Int.one_mul]
      · exact Int.ofNat_le.mp (within limited _ rfl)

theorem readExponent_eq_ok_iff {isLimited : Bool} {e : Option Int} :
    readExponent isLimited s = .ok (e, rest) ↔
      WritesExponent s e rest ∧ (isLimited = true → ∀ x ∈ e, x ≤ (maxExponent : Int)) :=
  ⟨readExponent_sound, fun h => h.1.read h.2⟩

theorem isLimited_iff {m : Numeral} :
    ((Mode.strict == .strict && !(m.whole == 0 && m.fraction.all (· == '0'))) = true →
      ∀ e ∈ m.exponent, e ≤ (maxExponent : Int)) ↔ m.IsLimited := by
  have zero : (m.whole == 0 && m.fraction.all (· == '0')) = true ↔ m.IsZero := by
    simp [Numeral.IsZero]
  unfold Numeral.IsLimited
  rw [← zero]
  cases m.whole == 0 && m.fraction.all (· == '0') <;> simp

theorem readUnsigned_eq_ok_iff {negative : Bool} {m : Numeral} :
    readUnsigned .strict negative s = .ok (m, rest) ↔
      m.negative = negative ∧ WritesUnsigned s m rest ∧ m.IsLimited := by
  constructor
  · intro read
    obtain ⟨⟨whole, u⟩, first, read⟩ := bind_eq_ok read
    obtain ⟨⟨fraction, v⟩, second, read⟩ := bind_eq_ok read
    obtain ⟨⟨exponent, rest⟩, third, read⟩ := bind_eq_ok read
    cases read
    obtain ⟨written, within⟩ := readExponent_eq_ok_iff.mp third
    exact ⟨rfl, ⟨u, v, readWhole_eq_ok_iff.mp first, readFraction_eq_ok_iff.mp second, written⟩,
      isLimited_iff.mp within⟩
  · rintro ⟨rfl, ⟨u, v, first, second, third⟩, limited⟩
    rw [readUnsigned, readWhole_eq_ok_iff.mpr first]
    show (readFraction u >>= _) = _
    rw [readFraction_eq_ok_iff.mpr second]
    show (readExponent _ v >>= _) = _
    rw [readExponent_eq_ok_iff.mpr ⟨third, isLimited_iff.mpr limited⟩]
    rfl

theorem WritesWhole.head (h : WritesWhole s n rest) : ∃ c u, s = c :: u ∧ c.isDigit = true := by
  obtain ⟨ds, run, _⟩ := h
  cases s with
  | nil => exact absurd (List.append_eq_nil_iff.mp run.split.symm).1 run.ne
  | cons c u => exact ⟨c, u, rfl, run.head⟩

theorem WritesNumeral.head {m : Numeral} (h : WritesNumeral s m rest) :
    ∃ c u, s = c :: u ∧ (c = '-' ∨ c.isDigit = true) := by
  obtain ⟨u, rfl, _, _, whole, _⟩ := h
  cases m.negative with
  | true => exact ⟨'-', u, rfl, .inl rfl⟩
  | false =>
    obtain ⟨c, v, rfl, digit⟩ := whole.head
    exact ⟨c, v, rfl, .inr digit⟩

theorem readNumeral_eq_ok_iff {m : Numeral} :
    readNumeral .strict s = .ok (m, rest) ↔ WritesNumeral s m rest ∧ m.IsLimited := by
  constructor
  · intro read
    unfold readNumeral at read
    split at read
    · rename_i u
      obtain ⟨negative, written, limited⟩ := readUnsigned_eq_ok_iff.mp read
      exact ⟨⟨u, by rw [negative]; rfl, written⟩, limited⟩
    · obtain ⟨positive, written, limited⟩ := readUnsigned_eq_ok_iff.mp read
      exact ⟨⟨s, by rw [positive]; rfl, written⟩, limited⟩
  · rintro ⟨⟨u, rfl, written⟩, limited⟩
    have read := readUnsigned_eq_ok_iff.mpr ⟨rfl, written, limited⟩
    obtain ⟨_, _, whole, _⟩ := written
    obtain ⟨c, v, rfl, digit⟩ := whole.head
    cases negative : m.negative with
    | true =>
      rw [negative] at read
      exact read
    | false =>
      rw [negative] at read
      show readNumeral .strict (c :: v) = _
      unfold readNumeral
      split
      · rename_i minus
        cases minus
        cases digit
      · exact read

theorem readNumber_eq_ok_iff {j : Json} : readNumber .strict s = .ok (j, rest) ↔
    ∃ m, j = .num m ∧ WritesNumeral s m rest ∧ m.IsFinite := by
  constructor
  · intro read
    obtain ⟨⟨m, u⟩, numeral, read⟩ := bind_eq_ok read
    obtain ⟨written, limited⟩ := readNumeral_eq_ok_iff.mp numeral
    dsimp only at read
    split at read
    · cases read
    · rename_i small
      cases read
      refine ⟨m, rfl, written, ?_, limited⟩
      rw [Option.isSome_iff_ne_none]
      exact fun none_left => small ⟨rfl, none_left⟩
  · rintro ⟨m, rfl, written, small, limited⟩
    rw [readNumber, readNumeral_eq_ok_iff.mpr ⟨written, limited⟩]
    refine if_neg ?_
    rintro ⟨_, none_left⟩
    rw [none_left] at small
    cases small

/-! ## Scalars -/

theorem expect_eq_ok_iff {w : List Char} : expect w s = .ok rest ↔ s = w ++ rest := by
  fun_induction expect w s with
  | case1 s => simp
  | case2 a w => simp [failAtEnd, fail]
  | case3 a w s ih => simpa using ih
  | case4 a w c s other => simp [fail, Ne.symm other]

theorem word_eq_ok_iff {w : String} {i j : Json} :
    word w i s = .ok (j, rest) ↔ j = i ∧ s = w.toList ++ rest := by
  rw [word, ← expect_eq_ok_iff]
  cases expect w.toList s with
  | error f => simp [Except.map]
  | ok u => simp [Except.map, eq_comm]

theorem readScalar_eq_ok_iff {j : Json} :
    readScalar .strict s = .ok (j, rest) ↔ WritesScalar s j rest := by
  constructor
  · intro read
    unfold readScalar at read
    split at read
    · cases read
    split at read
    · obtain ⟨rfl, shown⟩ := word_eq_ok_iff.mp read
      exact shown ▸ .null
    split at read
    · obtain ⟨rfl, shown⟩ := word_eq_ok_iff.mp read
      exact shown ▸ .true
    split at read
    · obtain ⟨rfl, shown⟩ := word_eq_ok_iff.mp read
      exact shown ▸ .false
    split at read
    · obtain ⟨m, rfl, written, finite⟩ := readNumber_eq_ok_iff.mp read
      exact .number written finite
    · cases read
  · intro scalar
    cases scalar with
    | null => rfl
    | true => rfl
    | false => rfl
    | @number s rest m written finite =>
      have read := readNumber_eq_ok_iff.mpr ⟨m, rfl, written, finite⟩
      obtain ⟨c, u, rfl, first⟩ := written.head
      have other : c ≠ 'n' ∧ c ≠ 't' ∧ c ≠ 'f' := by
        refine ⟨?_, ?_, ?_⟩ <;> (rintro rfl; rcases first with minus | digit <;> contradiction)
      rw [readScalar, if_neg other.1, if_neg other.2.1, if_neg other.2.2, if_pos first]
      exact read

/-- No scalar begins as a text or a container does, or as a list ends. -/
theorem WritesScalar.head {j : Json} (h : WritesScalar s j rest) :
    ∃ c u, s = c :: u ∧ c ∉ ['"', '[', '\x7b', ']'] := by
  cases h with
  | null => exact ⟨_, _, rfl, by decide⟩
  | true => exact ⟨_, _, rfl, by decide⟩
  | false => exact ⟨_, _, rfl, by decide⟩
  | number written =>
    obtain ⟨c, u, shown, first⟩ := written.head
    refine ⟨c, u, shown, ?_⟩
    rcases first with rfl | digit
    · decide
    · simp only [List.mem_cons, List.not_mem_nil, or_false, not_or]
      refine ⟨?_, ?_, ?_, ?_⟩ <;> (rintro rfl; cases digit)

end Json
end TextCatalog
