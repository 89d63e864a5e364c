import TextCatalog.Text.Utf8

/-!
# TextCatalog.Proofs.Text.Utf8

Texts as bytes, read back and compared.

* `encodeChar_cases` — the bytes of a character, by its size.
* `decodePieces_encode` — the bytes of a text are read as that text.
* `decode?_encode` — and by a reader that refuses what is no text, too.
* `encode_lt_iff` — bytes are in the order of the texts that they are of.
* `length_le_size`, `length_le_utf8ByteSize` — a text has as many bytes as characters, or more.
-/

namespace TextCatalog
namespace Text
namespace Utf8

/-- A byte after the first one of a character. -/
def trail (n : Nat) : UInt8 := UInt8.ofNat (n % 64 + 0x80)

theorem toNat_trail (n : Nat) : (trail n).toNat = n % 64 + 0x80 :=
  UInt8.toNat_ofNat_of_lt' (by show _ < 256; omega)

theorem toNat_byte {n : Nat} (h : n < 256) : (UInt8.ofNat n).toNat = n :=
  UInt8.toNat_ofNat_of_lt' h

/-- The bytes of a character, by its size. -/
theorem encodeChar_cases (c : Char) :
    (c.toNat < 0x80 ∧ String.utf8EncodeChar c = [UInt8.ofNat c.toNat]) ∨
    (0x80 ≤ c.toNat ∧ c.toNat < 0x800 ∧
      String.utf8EncodeChar c = [UInt8.ofNat (c.toNat / 64 + 0xc0), trail c.toNat]) ∨
    (0x800 ≤ c.toNat ∧ (c.toNat < 0xd800 ∨ 0xdfff < c.toNat) ∧ c.toNat < 0x10000 ∧
      String.utf8EncodeChar c =
        [UInt8.ofNat (c.toNat / 4096 + 0xe0), trail (c.toNat / 64), trail c.toNat]) ∨
    (0x10000 ≤ c.toNat ∧ c.toNat < 0x110000 ∧
      String.utf8EncodeChar c =
        [UInt8.ofNat (c.toNat / 262144 + 0xf0), trail (c.toNat / 4096), trail (c.toNat / 64),
          trail c.toNat]) := by
  have valid : c.toNat < 0xd800 ∨ (0xdfff < c.toNat ∧ c.toNat < 0x110000) := c.valid
  unfold String.utf8EncodeChar trail
  simp only [show c.val.toNat = c.toNat from rfl]
  split
  · exact .inl ⟨by omega, rfl⟩
  split
  · refine .inr (.inl ⟨by omega, by omega, ?_⟩)
    rw [Nat.mod_eq_of_lt (show c.toNat / 64 < 32 by omega)]
  split
  · refine .inr (.inr (.inl ⟨by omega, by omega, by omega, ?_⟩))
    rw [Nat.mod_eq_of_lt (show c.toNat / 4096 < 16 by omega)]
  · refine .inr (.inr (.inr ⟨by omega, by omega, ?_⟩))
    rw [Nat.mod_eq_of_lt (show c.toNat / 262144 < 8 by omega)]

theorem encodeChar_ascii {c : Char} (h : c.toNat < 0x80) :
    String.utf8EncodeChar c = [UInt8.ofNat c.toNat] := by
  rcases encodeChar_cases c with ⟨_, bytes⟩ | ⟨long, _⟩ | ⟨long, _⟩ | ⟨long, _⟩
  · exact bytes
  · omega
  · omega
  · omega

/-! ## Reading -/

theorem decodeFrom_last {value first last : Nat} {b : UInt8} (h : first ≤ b.toNat ∧ b.toNat ≤ last)
    (bs : List UInt8) :
    decodeFrom (.within 1 value first last) (b :: bs) =
      some (Char.ofNat (value * 64 + (b.toNat - 0x80))) :: decodeFrom .between bs := by
  rw [decodeFrom, if_pos h]
  rfl

theorem decodeFrom_next {missing value first last : Nat} {b : UInt8}
    (h : first ≤ b.toNat ∧ b.toNat ≤ last) (bs : List UInt8) :
    decodeFrom (.within (missing + 2) value first last) (b :: bs) =
      decodeFrom (.within (missing + 1) (value * 64 + (b.toNat - 0x80)) 0x80 0xbf) bs := by
  rw [decodeFrom, if_pos h, if_neg (by omega)]
  rfl

theorem decodeFrom_opening {b : UInt8} {s : State} (h : opening b.toNat = .more s)
    (bs : List UInt8) : decodeFrom .between (b :: bs) = decodeFrom s bs := by
  rw [decodeFrom, h]

/-- The first byte of three leaves room for the second one, long forms and surrogates apart. -/
theorem opening_three {k m : Nat} (hk : k < 16) (hm : m < 64) (long : 0x20 ≤ k * 64 + m)
    (plain : k * 64 + m < 0x360 ∨ 0x380 ≤ k * 64 + m) :
    ∃ first last, opening (k + 0xe0) = .more (.within 2 k first last) ∧
      first ≤ m + 0x80 ∧ m + 0x80 ≤ last := by
  unfold opening
  rw [if_neg (by omega), if_neg (by omega), if_neg (by omega)]
  by_cases zero : k = 0
  · subst zero
    exact ⟨_, _, rfl, by omega, by omega⟩
  · rw [if_neg (by omega)]
    by_cases surrogates : k = 0xd
    · subst surrogates
      exact ⟨_, _, rfl, by omega, by omega⟩
    · rw [if_neg (by omega), if_pos (by omega), Nat.add_sub_cancel]
      exact ⟨_, _, rfl, by omega, by omega⟩

/-- Long forms and what is past the end apart, the first byte of four leaves room for the second. -/
theorem opening_four {k m : Nat} (hm : m < 64) (long : 0x10 ≤ k * 64 + m)
    (within : k * 64 + m < 0x110) :
    ∃ first last, opening (k + 0xf0) = .more (.within 3 k first last) ∧
      first ≤ m + 0x80 ∧ m + 0x80 ≤ last := by
  unfold opening
  rw [if_neg (by omega), if_neg (by omega), if_neg (by omega), if_neg (by omega), if_neg (by omega),
    if_neg (by omega)]
  by_cases zero : k = 0
  · subst zero
    exact ⟨_, _, rfl, by omega, by omega⟩
  · rw [if_neg (by omega)]
    by_cases last : k = 4
    · subst last
      exact ⟨_, _, rfl, by omega, by omega⟩
    · rw [if_pos (by omega), Nat.add_sub_cancel]
      exact ⟨_, _, rfl, by omega, by omega⟩

theorem trail_bounds (n : Nat) : 0x80 ≤ (trail n).toNat ∧ (trail n).toNat ≤ 0xbf := by
  rw [toNat_trail]
  omega

theorem decodeFrom_encodeChar (c : Char) (bs : List UInt8) :
    decodeFrom .between (String.utf8EncodeChar c ++ bs) = some c :: decodeFrom .between bs := by
  have whole : ∀ n, n = c.toNat → Char.ofNat n = c := by
    rintro n rfl
    exact Char.ofNat_toNat c
  rcases encodeChar_cases c with ⟨small, bytes⟩ | ⟨low, high, bytes⟩ | ⟨low, plain, high, bytes⟩ |
    ⟨low, high, bytes⟩ <;> rw [bytes]
  · have opened : opening (UInt8.ofNat c.toNat).toNat = .char c := by
      rw [toNat_byte (by omega), opening, if_pos small, Char.ofNat_toNat]
    rw [List.singleton_append, decodeFrom, opened]
  · have opened : opening (UInt8.ofNat (c.toNat / 64 + 0xc0)).toNat =
        .more (.within 1 (c.toNat / 64) 0x80 0xbf) := by
      rw [toNat_byte (by omega), opening, if_neg (by omega), if_neg (by omega), if_pos (by omega),
        Nat.add_sub_cancel]
    simp only [List.cons_append, List.nil_append]
    rw [decodeFrom_opening opened, decodeFrom_last (trail_bounds _), toNat_trail,
      whole _ (by omega)]
  · obtain ⟨first, last, opened, room⟩ := @opening_three (c.toNat / 4096) (c.toNat / 64 % 64)
      (by omega) (by omega) (by omega) (by omega)
    rw [← toNat_byte (show c.toNat / 4096 + 0xe0 < 256 by omega)] at opened
    rw [← toNat_trail] at room
    simp only [List.cons_append, List.nil_append]
    rw [decodeFrom_opening opened, decodeFrom_next room, decodeFrom_last (trail_bounds _),
      toNat_trail, toNat_trail, whole _ (by omega)]
  · obtain ⟨first, last, opened, room⟩ := @opening_four (c.toNat / 262144) (c.toNat / 4096 % 64)
      (by omega) (by omega) (by omega)
    rw [← toNat_byte (show c.toNat / 262144 + 0xf0 < 256 by omega)] at opened
    rw [← toNat_trail] at room
    simp only [List.cons_append, List.nil_append]
    rw [decodeFrom_opening opened, decodeFrom_next room, decodeFrom_next (trail_bounds _),
      decodeFrom_last (trail_bounds _), toNat_trail, toNat_trail, toNat_trail, whole _ (by omega)]

theorem decodePieces_encode (s : List Char) : decodePieces (encode s) = s.map some := by
  induction s with
  | nil => rfl
  | cons c s ih =>
    show decodeFrom .between (String.utf8EncodeChar c ++ encode s) = _
    rw [decodeFrom_encodeChar]
    exact congrArg (some c :: ·) ih

theorem decode?_encode (s : List Char) : decode? (encode s) = some s := by
  rw [decode?, decodePieces_encode]
  induction s with
  | nil => rfl
  | cons c s ih =>
    rw [List.map_cons, List.mapM_cons, ih]
    rfl

theorem decodeLossy_encode (s : List Char) : decodeLossy (encode s) = s := by
  rw [decodeLossy, decodePieces_encode, List.map_map]
  exact List.map_id s

/-! ## Order -/

theorem encodeChar_lt {c d : Char} (h : c < d) (x y : List UInt8) :
    String.utf8EncodeChar c ++ x < String.utf8EncodeChar d ++ y := by
  have lt : c.toNat < d.toNat := h
  rcases encodeChar_cases c with ⟨hc, bytes⟩ | ⟨hc, hc', bytes⟩ | ⟨hc, _, hc', bytes⟩ |
    ⟨hc, hc', bytes⟩ <;> rw [bytes] <;>
  rcases encodeChar_cases d with ⟨hd, bytes'⟩ | ⟨hd, hd', bytes'⟩ | ⟨hd, _, hd', bytes'⟩ |
    ⟨hd, hd', bytes'⟩ <;> rw [bytes'] <;>
  simp only [List.cons_append, List.cons_lt_cons_iff, UInt8.lt_iff_toNat_lt, ← UInt8.toNat_inj,
    toNat_trail] <;>
  rw [toNat_byte (by omega), toNat_byte (by omega)] <;> omega

theorem append_lt_append_left_iff (a x y : List UInt8) : a ++ x < a ++ y ↔ x < y := by
  induction a with
  | nil => rfl
  | cons b a ih =>
    rw [List.cons_append, List.cons_append, List.cons_lt_cons_iff, ih]
    simp

/-- Texts are ordered by code points as their bytes are. -/
theorem encode_lt_iff (s t : List Char) : encode s < encode t ↔ s < t := by
  induction s generalizing t with
  | nil =>
    cases t with
    | nil => simp [encode]
    | cons d t =>
      have bytes : encode (d :: t) ≠ [] := by
        rcases encodeChar_cases d with ⟨_, h⟩ | ⟨_, _, h⟩ | ⟨_, _, _, h⟩ | ⟨_, _, h⟩ <;>
          simp [encode, h]
      cases h : encode (d :: t) with
      | nil => exact absurd h bytes
      | cons b bs => exact ⟨fun _ => List.nil_lt_cons d t, fun _ => List.nil_lt_cons b bs⟩
  | cons c s ih =>
    cases t with
    | nil => simp [encode]
    | cons d t =>
      show String.utf8EncodeChar c ++ encode s < String.utf8EncodeChar d ++ encode t ↔ _
      rw [List.cons_lt_cons_iff]
      rcases Nat.lt_trichotomy c.toNat d.toNat with lt | same | gt
      · exact ⟨fun _ => .inl lt, fun _ => encodeChar_lt lt _ _⟩
      · obtain rfl := Char.toNat_inj.mp same
        rw [append_lt_append_left_iff, ih]
        simp
      · have gt : d < c := gt
        constructor
        · intro lt
          exact absurd (encodeChar_lt gt (encode t) (encode s)) (List.lt_asymm lt)
        · rintro (lt | ⟨rfl, _⟩)
          · exact absurd gt (Char.lt_asymm lt)
          · exact absurd gt (Char.lt_irrefl c)

/-! ## Sizes -/

theorem length_le_length_encode (s : List Char) : s.length ≤ (encode s).length := by
  induction s with
  | nil => exact Nat.le_refl 0
  | cons c s ih =>
    have some_byte : 0 < (String.utf8EncodeChar c).length := by
      rw [String.length_utf8EncodeChar]
      exact c.utf8Size_pos
    rw [encode, List.flatMap_cons, List.length_append, List.length_cons, Nat.add_comm]
    exact Nat.add_le_add some_byte ih

theorem length_le_utf8ByteSize (text : String) : text.toList.length ≤ text.utf8ByteSize := by
  have size : (encode text.toList).length = text.utf8ByteSize := by
    rw [← String.size_toByteArray, ← String.utf8Encode_toList, List.utf8Encode,
      List.size_toByteArray]
    rfl
  rw [← size]
  exact length_le_length_encode _

theorem foldl_utf8Size (s : List Char) (n : Nat) :
    s.foldl (fun n c => n + c.utf8Size) n = n + (encode s).length := by
  induction s generalizing n with
  | nil => rfl
  | cons c s ih =>
    rw [List.foldl_cons, ih, encode, encode, List.flatMap_cons, List.length_append,
      String.length_utf8EncodeChar, Nat.add_assoc]

theorem length_le_size (s : List Char) : s.length ≤ size s := by
  rw [size, foldl_utf8Size, Nat.zero_add]
  exact length_le_length_encode s

end Utf8
end Text
end TextCatalog
