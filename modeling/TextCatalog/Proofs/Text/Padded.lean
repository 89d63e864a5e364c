import Mathlib.Algebra.Group.Nat.Defs
import TextCatalog.Text.Reader

/-!
# TextCatalog.Proofs.Text.Padded

Numerals of a fixed width, and texts that are made of such fields.

* `padded_succ` — the last digit of a field by itself; the inductions on the width go by it.
* `padded_lt` — fields of one width are ordered as their numbers are.
* `field_lt` — so are texts that begin with a field, unless the numbers are equal.
* `exactly_padded` — a field is read back, whatever follows it.
-/

namespace TextCatalog
namespace Text

/-! ## Order of texts -/

theorem append_lt_append {a b c d : List Char} (h : a.length = b.length) :
    a ++ c < b ++ d ↔ a < b ∨ (a = b ∧ c < d) := by
  induction a generalizing b with
  | nil =>
    cases b with
    | nil => simp
    | cons y b => cases h
  | cons x a ih =>
    cases b with
    | nil => cases h
    | cons y b =>
      rw [List.cons_append, List.cons_append, List.cons_lt_cons_iff, List.cons_lt_cons_iff,
        ih (Nat.succ.inj h), List.cons.injEq]
      constructor
      · rintro (lt | ⟨same, lt | ⟨same', lt⟩⟩)
        · exact .inl (.inl lt)
        · exact .inl (.inr ⟨same, lt⟩)
        · exact .inr ⟨⟨same, same'⟩, lt⟩
      · rintro ((lt | ⟨same, lt⟩) | ⟨⟨same, same'⟩, lt⟩)
        · exact .inl lt
        · exact .inr ⟨same, .inl lt⟩
        · exact .inr ⟨same, .inr ⟨same', lt⟩⟩

theorem digitChar_lt {m n : Nat} (hm : m < 10) (hn : n < 10) :
    Nat.digitChar m < Nat.digitChar n ↔ m < n := by
  rw [Char.lt_def, UInt32.lt_iff_toNat_lt]
  show (Nat.digitChar m).toNat < (Nat.digitChar n).toNat ↔ _
  rw [Nat.toNat_digitChar_of_lt_ten hm, Nat.toNat_digitChar_of_lt_ten hn]
  omega

/-! ## Fields -/

theorem padded_one {n : Nat} (h : n < 10) : padded 1 n = [Nat.digitChar n] := by
  simp [padded, numeral, Nat.toDigits_of_lt_base h]

theorem padded_succ (w n : Nat) :
    padded (w + 2) n = padded (w + 1) (n / 10) ++ [Nat.digitChar (n % 10)] := by
  by_cases h : n < 10
  · have hz : n / 10 = 0 := by omega
    have hm : n % 10 = n := by omega
    rw [hz, hm]
    simp only [padded, numeral, Nat.toDigits_of_lt_base h, Nat.toDigits_zero, List.length_singleton]
    show List.replicate (w + 1) '0' ++ _ = List.replicate w '0' ++ ['0'] ++ _
    rw [← List.replicate_succ']
  · simp only [padded, numeral]
    rw [Nat.toDigits_of_base_le (by decide) (by omega : 10 ≤ n), List.length_append,
      List.length_singleton, List.append_assoc]
    congr 2
    omega

theorem padded_length {w n : Nat} (h : n < 10 ^ (w + 1)) : (padded (w + 1) n).length = w + 1 := by
  have := (Nat.length_toDigits_le_iff (b := 10) (n := n) (by decide) (Nat.succ_pos w)).mpr h
  simp only [padded, numeral, List.length_append, List.length_replicate]
  omega

theorem padded_isDigit {w n : Nat} : ∀ c ∈ padded w n, c.isDigit = true := by
  intro c mem
  rcases List.mem_append.mp mem with zero | digit
  · rw [(List.mem_replicate.mp zero).2]; rfl
  · exact numeral_isDigit c digit

theorem numeralValue_padded (w n : Nat) : numeralValue (padded w n) = n := by
  unfold numeralValue padded
  rw [Nat.ofDigitChars_append, Nat.ofDigitChars_replicate_zero, Nat.mul_zero]
  exact numeralValue_numeral n

theorem padded_inj {w m n : Nat} (h : padded w m = padded w n) : m = n := by
  have := congrArg numeralValue h
  rwa [numeralValue_padded, numeralValue_padded] at this

theorem padded_lt {w m n : Nat} (hm : m < 10 ^ (w + 1)) (hn : n < 10 ^ (w + 1)) :
    padded (w + 1) m < padded (w + 1) n ↔ m < n := by
  induction w generalizing m n with
  | zero =>
    rw [padded_one hm, padded_one hn, List.cons_lt_cons_iff, digitChar_lt hm hn]
    simp
  | succ w ih =>
    have hm' : m / 10 < 10 ^ (w + 1) := by rw [Nat.pow_succ] at hm; omega
    have hn' : n / 10 < 10 ^ (w + 1) := by rw [Nat.pow_succ] at hn; omega
    have len : (padded (w + 1) (m / 10)).length = (padded (w + 1) (n / 10)).length := by
      rw [padded_length hm', padded_length hn']
    have last : [Nat.digitChar (m % 10)] < [Nat.digitChar (n % 10)] ↔ m % 10 < n % 10 := by
      rw [List.cons_lt_cons_iff, digitChar_lt (by omega) (by omega)]
      simp
    rw [padded_succ, padded_succ, append_lt_append len, ih hm' hn', last]
    constructor
    · rintro (lt | ⟨same, lt⟩)
      · omega
      · have := padded_inj same
        omega
    · intro lt
      by_cases tens : m / 10 = n / 10
      · exact .inr ⟨by rw [tens], by omega⟩
      · exact .inl (by omega)

/-- Texts that begin with fields of one width, parted from what follows by the same texts. -/
theorem field_lt {w m n : Nat} {s a b : List Char} (hm : m < 10 ^ (w + 1))
    (hn : n < 10 ^ (w + 1)) :
    padded (w + 1) m ++ (s ++ a) < padded (w + 1) n ++ (s ++ b) ↔ m < n ∨ (m = n ∧ a < b) := by
  have len : (padded (w + 1) m).length = (padded (w + 1) n).length := by
    rw [padded_length hm, padded_length hn]
  rw [append_lt_append len, append_lt_append rfl, padded_lt hm hn]
  constructor
  · rintro (lt | ⟨same, lt | ⟨_, lt⟩⟩)
    · exact .inl lt
    · exact absurd lt (List.lt_irrefl s)
    · exact .inr ⟨padded_inj same, lt⟩
  · rintro (lt | ⟨same, lt⟩)
    · exact .inl lt
    · exact .inr ⟨by rw [same], .inr ⟨rfl, lt⟩⟩

/-! ## Reading -/

theorem leadingDigits_append {ds rest : List Char} (h : ∀ c ∈ ds, c.isDigit = true) :
    leadingDigits (ds ++ rest) = ds ++ leadingDigits rest :=
  List.takeWhile_append_of_pos h

theorem leadingDigits_append_of_head {ds rest : List Char} (h : ∀ c ∈ ds, c.isDigit = true)
    (hr : ∀ c ∈ rest.head?, c.isDigit = false) : leadingDigits (ds ++ rest) = ds := by
  rw [leadingDigits_append h]
  cases rest with
  | nil => simp [leadingDigits]
  | cons c rest => simp [leadingDigits, hr c rfl]

theorem exactly_padded {w n : Nat} (h : n < 10 ^ (w + 1)) (rest : List Char) :
    exactly (w + 1) (padded (w + 1) n ++ rest) = some (n, rest) := by
  have len := padded_length h
  have kept : (leadingDigits (padded (w + 1) n ++ rest)).take (w + 1) = padded (w + 1) n := by
    rw [leadingDigits_append padded_isDigit, List.take_append_of_le_length (by omega),
      List.take_of_length_le (by omega)]
  have left : (padded (w + 1) n ++ rest).drop (w + 1) = rest := by
    rw [List.drop_append_of_le_length (by omega), List.drop_of_length_le (by omega)]
    rfl
  unfold exactly
  rw [kept, left, if_pos len, numeralValue_padded]

end Text
end TextCatalog
