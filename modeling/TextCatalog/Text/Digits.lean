/-!
# TextCatalog.Text.Digits

Decimal numerals with the range of the numbers that this library keeps, and hexadecimal digits.

* `numeral` — the decimal digits of a number.
* `leadingDigits`, `numeralValue` — the digits a text begins with, and their value.
* `counts` — how many different counts there are; a count is a number below it.
* `count?` — reads back what `numeral` writes of a count (`count?_numeral`).
* `significand` — the leading digits of a decimal that count, with their scale.
* `hexDigit`, `hexValue?` — hexadecimal digits: written in lower case, read in either case.
-/

namespace TextCatalog
namespace Text

/-- Counts are the numbers of 64 bits. -/
def counts : Nat := 18446744073709551616

def countMax : Nat := counts - 1

def numeral (n : Nat) : List Char := Nat.toDigits 10 n

def leadingDigits (s : List Char) : List Char := s.takeWhile Char.isDigit

def numeralValue (digits : List Char) : Nat := Nat.ofDigitChars 10 digits 0

theorem numeralValue_numeral (n : Nat) : numeralValue (numeral n) = n :=
  Nat.ofDigitChars_toDigits (by decide) (by decide)

theorem numeral_isDigit {n : Nat} : ∀ c ∈ numeral n, c.isDigit = true :=
  fun _ mem => Nat.isDigit_of_mem_toDigits (by decide) (by decide) mem

theorem numeral_ne_nil (n : Nat) : numeral n ≠ [] := by
  intro h
  have : 0 < (numeral n).length := Nat.length_toDigits_pos
  rw [h] at this
  cases this

/-- The value of a nonempty run of digits, if it is a count. -/
def count? (digits : List Char) : Option Nat :=
  match digits with
  | [] => none
  | _ :: _ => if numeralValue digits < counts then some (numeralValue digits) else none

theorem count?_eq_some_iff {digits : List Char} {n : Nat} :
    count? digits = some n ↔ digits ≠ [] ∧ numeralValue digits = n ∧ n < counts := by
  unfold count?
  split
  · simp
  · split
    · rename_i fits
      simp only [Option.some.injEq, ne_eq, reduceCtorEq, not_false_eq_true, true_and]
      exact ⟨fun same => ⟨same, same ▸ fits⟩, fun h => h.1⟩
    · rename_i large
      simp only [reduceCtorEq, false_iff]
      rintro ⟨_, rfl, fits⟩
      exact large fits

theorem count?_numeral {n : Nat} (h : n < counts) : count? (numeral n) = some n :=
  count?_eq_some_iff.mpr ⟨numeral_ne_nil n, numeralValue_numeral n, h⟩

/-- Appends digits to a number while it stays below a limit; also gives how many it took. -/
def absorb (limit : Nat) : Nat → List Char → Nat × Nat
  | n, [] => (n, 0)
  | n, d :: ds =>
    let m := n * 10 + (d.toNat - '0'.toNat)
    if m < limit then
      let r := absorb limit m ds
      (r.1, r.2 + 1)
    else (n, 0)

/--
As many leading digits of a decimal as make a number below a limit, and the power of ten by
which it is to be scaled.
-/
def significand (limit : Nat) (whole fraction : List Char) : Nat × Int :=
  let a := absorb limit 0 whole
  let b := absorb limit a.1 fraction
  (b.1, (whole.length : Int) - a.2 - b.2)

/-- The numeral of `n` with zeros before it, `width` digits at least. -/
def padded (width n : Nat) : List Char :=
  List.replicate (width - (numeral n).length) '0' ++ numeral n

/-! ## Hexadecimal -/

def hexDigits : List Char := "0123456789abcdef".toList

def hexDigit (n : Nat) : Char := hexDigits.getD n '0'

def hexValue? (c : Char) : Option Nat :=
  if '0' ≤ c ∧ c ≤ '9' then some (c.toNat - '0'.toNat)
  else if 'a' ≤ c ∧ c ≤ 'f' then some (c.toNat - 'a'.toNat + 10)
  else if 'A' ≤ c ∧ c ≤ 'F' then some (c.toNat - 'A'.toNat + 10)
  else none

theorem hexValue?_hexDigit : ∀ n < 16, hexValue? (hexDigit n) = some n := by decide

end Text
end TextCatalog
