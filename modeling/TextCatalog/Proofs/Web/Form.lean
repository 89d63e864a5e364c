import Mathlib.Data.List.Forall2
import TextCatalog.Proofs.Text.Utf8
import TextCatalog.Web.Service

/-!
# TextCatalog.Proofs.Web.Form

Every spelling of names and texts in a query string, and what is read of it.

* `Form.Carries`, `Form.Writes` — a spelling carries bytes; it writes a text if these are the
  bytes of the text. A byte may be written as an escape or, if it can, as the character itself.
* `Form.writes_encode` — every text has a spelling.
* `Form.decode_eq` — what a spelling writes is read.
* `Form.WritesAll`, `Form.pairs_eq` — the same for a whole query string.
* `Service.paramsOf_eq` — parameters whose names are distinct are kept as they are.
-/

namespace TextCatalog

open Text

namespace Form

/-! ## Spellings -/

/--
The characters that stand for themselves: those that are visible, the ones apart that are written
for something else or that no target holds.
-/
def isPlain (c : Char) : Bool :=
  decide ('!' ≤ c) && decide (c ≤ '~') && !"\"#%&+<>".toList.contains c

inductive Carries : List Char → List UInt8 → Prop where
  | nil : Carries [] []
  | plain {c : Char} {s : List Char} {bs : List UInt8} :
      isPlain c = true → Carries s bs → Carries (c :: s) (UInt8.ofNat c.toNat :: bs)
  | space {s : List Char} {bs : List UInt8} : Carries s bs → Carries ('+' :: s) (0x20 :: bs)
  /-- Hexadecimal digits of either case. -/
  | escape {a b : Char} {high low : Nat} {s : List Char} {bs : List UInt8} :
      hexValue? a = some high → hexValue? b = some low → Carries s bs →
      Carries ('%' :: a :: b :: s) (UInt8.ofNat (high * 16 + low) :: bs)

def Writes (s : List Char) (text : String) : Prop := Carries s (Utf8.encode text.toList)

variable {c : Char} {s t : List Char} {bs : List UInt8} {text : String}

theorem isPlain_bounds (h : isPlain c = true) : 33 ≤ c.toNat ∧ c.toNat ≤ 126 := by
  unfold isPlain at h
  simp only [Bool.and_eq_true, decide_eq_true_eq] at h
  exact h.1

theorem ne_of_isPlain {d : Char} (h : isPlain c = true) (hd : isPlain d = false) : c ≠ d := by
  rintro rfl
  rw [h] at hd
  cases hd

theorem ne_of_hexValue? {d : Char} {n : Nat} (h : hexValue? c = some n) (hd : hexValue? d = none) :
    c ≠ d := by
  rintro rfl
  rw [h] at hd
  cases hd

theorem encodeChar_plain (h : isPlain c = true) :
    String.utf8EncodeChar c = [UInt8.ofNat c.toNat] := by
  have bounds := isPlain_bounds h
  exact Utf8.encodeChar_ascii (by omega)

/-! ## Writing -/

theorem Carries.append {bs' : List UInt8} (h : Carries s bs) (h' : Carries t bs') :
    Carries (s ++ t) (bs ++ bs') := by
  induction h with
  | nil => exact h'
  | plain plain _ ih => exact .plain plain ih
  | space _ ih => exact .space ih
  | escape first second _ ih => exact .escape first second ih

theorem carries_encodeByte (b : UInt8) : Carries (Percent.encodeByte b) [b] := by
  have small : b.toNat < 256 := b.toNat_lt
  have high := hexValue?_hexDigit (b.toNat / 16) (by omega)
  have low := hexValue?_hexDigit (b.toNat % 16) (by omega)
  have whole : UInt8.ofNat (b.toNat / 16 * 16 + b.toNat % 16) = b := by
    rw [Nat.div_add_mod', UInt8.ofNat_toNat]
  have written := Carries.escape high low .nil
  rwa [whole] at written

theorem carries_encodeBytes (bs : List UInt8) : Carries (bs.flatMap Percent.encodeByte) bs := by
  induction bs with
  | nil => exact .nil
  | cons b bs ih => exact (carries_encodeByte b).append ih

/-- A character as a form writes it: as itself, as a plus sign or as escapes. -/
def encodeChar (c : Char) : List Char :=
  if c = ' ' then ['+']
  else if isPlain c then [c]
  else (String.utf8EncodeChar c).flatMap Percent.encodeByte

def encode (s : List Char) : List Char := s.flatMap encodeChar

theorem carries_encodeChar (c : Char) : Carries (encodeChar c) (String.utf8EncodeChar c) := by
  unfold encodeChar
  split
  · rename_i blank
    rw [blank]
    exact .space .nil
  · split
    · rename_i plain
      rw [encodeChar_plain plain]
      exact .plain plain .nil
    · exact carries_encodeBytes _

/-- Every text can be written. -/
theorem writes_encode (text : String) : Writes (encode text.toList) text := by
  unfold Writes
  generalize text.toList = s
  induction s with
  | nil => exact .nil
  | cons c s ih => exact (carries_encodeChar c).append ih

/-! ## Reading -/

/-- Neither the end of a part nor the end of the query stands in a spelling. -/
theorem Carries.not_mem (h : Carries s bs) : '#' ∉ s ∧ '&' ∉ s := by
  induction h with
  | nil => exact ⟨List.not_mem_nil, List.not_mem_nil⟩
  | plain plain _ ih =>
    have hash := ne_of_isPlain plain (d := '#') (by decide)
    have amp := ne_of_isPlain plain (d := '&') (by decide)
    simp [ih, hash.symm, amp.symm]
  | space _ ih => simp [ih]
  | escape first second _ ih =>
    have hash : hexValue? '#' = none := by decide
    have amp : hexValue? '&' = none := by decide
    simp [ih, (ne_of_hexValue? first hash).symm, (ne_of_hexValue? second hash).symm,
      (ne_of_hexValue? first amp).symm, (ne_of_hexValue? second amp).symm]

def spaced (c : Char) : Char := if c = '+' then ' ' else c

theorem spaced_of_ne (h : c ≠ '+') : spaced c = c := if_neg h

theorem bytes_cons (h : c ≠ '%') (s : List Char) :
    Percent.bytes (c :: s) = String.utf8EncodeChar c ++ Percent.bytes s := by
  rw [Percent.bytes.eq_def]
  split
  · simp_all
  · simp_all
  · simp_all

theorem bytes_escape {a b : Char} {high low : Nat} (first : hexValue? a = some high)
    (second : hexValue? b = some low) (s : List Char) :
    Percent.bytes ('%' :: a :: b :: s) = UInt8.ofNat (high * 16 + low) :: Percent.bytes s := by
  rw [Percent.bytes, Percent.escapedByte?, first, second]

theorem Carries.bytes_eq (h : Carries s bs) : Percent.bytes (s.map spaced) = bs := by
  -- Plus signs are replaced before escapes are read, so an escaped plus sign stays one.
  induction h with
  | nil => rfl
  | plain plain _ ih =>
    rw [List.map_cons, spaced_of_ne (ne_of_isPlain plain (by decide)),
      bytes_cons (ne_of_isPlain plain (by decide)), encodeChar_plain plain, ih]
    rfl
  | space _ ih =>
    rw [List.map_cons, show spaced '+' = ' ' from rfl, bytes_cons (by decide), ih]
    rfl
  | escape first second _ ih =>
    have plus : hexValue? '+' = none := by decide
    rw [List.map_cons, List.map_cons, List.map_cons, spaced_of_ne (by decide),
      spaced_of_ne (ne_of_hexValue? first plus), spaced_of_ne (ne_of_hexValue? second plus),
      bytes_escape first second, ih]

/-- What a spelling writes is read. -/
theorem decode_eq (h : Writes s text) : decode s = text := by
  have bytes : Percent.bytes (s.map spaced) = Utf8.encode text.toList := h.bytes_eq
  show String.ofList (Utf8.decodeLossy (Percent.bytes (s.map spaced))) = text
  rw [bytes, Utf8.decodeLossy_encode, String.ofList_toList]

/-! ## Query strings -/

/-- A name and its text. The name is spelled without an equals sign. -/
def WritesPair (piece : List Char) (p : String × String) : Prop :=
  ∃ s t, piece = s ++ '=' :: t ∧ '=' ∉ s ∧ Writes s p.1 ∧ Writes t p.2

/-- Names and texts, parted by ampersands. -/
def WritesAll (query : List Char) (ps : Params) : Prop :=
  ∃ pieces, query = ['&'].intercalate pieces ∧ List.Forall₂ WritesPair pieces ps

variable {piece query : List Char} {p : String × String} {ps : Params}

theorem pair_eq (h : WritesPair piece p) : pair piece = p := by
  obtain ⟨s, t, rfl, apart, name, text⟩ := h
  have before : ∀ c ∈ s, (c != '=') = true := fun c mem =>
    bne_iff_ne.mpr fun same => apart (same ▸ mem)
  have front : (s ++ '=' :: t).takeWhile (· != '=') = s := by
    rw [List.takeWhile_append_of_pos before]
    exact List.append_nil s
  have back : ((s ++ '=' :: t).dropWhile (· != '=')).drop 1 = t := by
    rw [List.dropWhile_append_of_pos before]
    rfl
  rw [pair, front, back, decode_eq name, decode_eq text]

theorem WritesPair.not_mem (h : WritesPair piece p) : '#' ∉ piece ∧ '&' ∉ piece := by
  obtain ⟨s, t, rfl, _, name, text⟩ := h
  have front := Carries.not_mem name
  have back := Carries.not_mem text
  simp [front, back]

theorem WritesPair.ne_nil (h : WritesPair piece p) : piece ≠ [] := by
  obtain ⟨s, t, rfl, _⟩ := h
  exact List.append_ne_nil_of_right_ne_nil s (List.cons_ne_nil _ t)

theorem writesPair_of_mem {pieces : List (List Char)} (h : List.Forall₂ WritesPair pieces ps) :
    ∀ piece ∈ pieces, ∃ p, WritesPair piece p := by
  induction h with
  | nil => exact fun _ mem => absurd mem List.not_mem_nil
  | cons first _ ih =>
    intro piece mem
    rcases List.mem_cons.mp mem with rfl | mem
    · exact ⟨_, first⟩
    · exact ih piece mem

theorem map_pair {pieces : List (List Char)} (h : List.Forall₂ WritesPair pieces ps) :
    pieces.map pair = ps := by
  have same : List.Forall₂ (· = ·) (pieces.map pair) ps :=
    List.forall₂_map_left_iff.mpr (h.imp fun _ _ written => pair_eq written)
  rwa [List.forall₂_eq_eq_eq] at same

theorem pairs_eq (h : WritesAll query ps) : pairs query = ps := by
  obtain ⟨pieces, rfl, each⟩ := h
  have written := writesPair_of_mem each
  cases pieces with
  | nil =>
    cases each
    rfl
  | cons piece pieces =>
    have split : (['&'].intercalate (piece :: pieces)).splitOn '&' = piece :: pieces := by
      refine List.splitOn_intercalate '&' (fun l mem => ?_) (List.cons_ne_nil _ _)
      obtain ⟨p, here⟩ := written l mem
      exact here.not_mem.2
    have kept : (piece :: pieces).filter (fun piece => !piece.isEmpty) = piece :: pieces := by
      refine List.filter_eq_self.mpr fun l mem => ?_
      obtain ⟨p, here⟩ := written l mem
      simp [here.ne_nil]
    rw [pairs, split, kept]
    exact map_pair each

theorem not_mem_intercalate {c : Char} {sep : List Char} {pieces : List (List Char)}
    (h : ∀ piece ∈ pieces, c ∉ piece) (hsep : c ∉ sep) : c ∉ sep.intercalate pieces := by
  induction pieces with
  | nil => exact List.not_mem_nil
  | cons piece pieces ih =>
    have rest := ih fun l mem => h l (List.mem_cons_of_mem piece mem)
    have first := h piece List.mem_cons_self
    cases pieces with
    | nil => simpa using first
    | cons next pieces =>
      rw [List.intercalate_cons_cons]
      simp only [List.mem_append, not_or]
      exact ⟨⟨first, hsep⟩, rest⟩

theorem WritesAll.not_mem (h : WritesAll query ps) : '#' ∉ query := by
  obtain ⟨pieces, rfl, each⟩ := h
  refine not_mem_intercalate (fun piece mem => ?_) (by decide)
  obtain ⟨p, here⟩ := writesPair_of_mem each piece mem
  exact here.not_mem.1

end Form

/-! ## Parameters -/

namespace Params

theorem set_of_new {ps : Params} {name : String} (h : name ∉ ps.map (·.1)) (text : String) :
    ps.set name text = ps ++ [(name, text)] := by
  have new : (ps.any fun p => p.1 == name) = false := by
    rw [List.any_eq_false]
    intro p mem same
    exact h (List.mem_map.mpr ⟨p, mem, beq_iff_eq.mp same⟩)
  rw [set, new]
  exact if_neg Bool.false_ne_true

theorem foldl_set (ps kept : Params) (distinct : ((kept ++ ps).map (·.1)).Nodup) :
    ps.foldl (fun ps p => ps.set p.1 p.2) kept = kept ++ ps := by
  induction ps generalizing kept with
  | nil => exact (List.append_nil kept).symm
  | cons p ps ih =>
    have new : p.1 ∉ kept.map (·.1) := by
      rw [List.map_append, List.map_cons] at distinct
      exact fun mem => (List.nodup_append.mp distinct).2.2 _ mem _ List.mem_cons_self rfl
    have regroup : kept ++ p :: ps = kept ++ [p] ++ ps := by simp
    rw [regroup] at distinct ⊢
    rw [List.foldl_cons, set_of_new new]
    exact ih (kept ++ [p]) distinct

end Params

namespace Service

/-- Where names are distinct, the parameters are those that the query writes. -/
theorem paramsOf_eq {r : Request} {ps : Params} (written : Form.WritesAll r.query ps)
    (distinct : (ps.map (·.1)).Nodup) : paramsOf r = ps := by
  rw [paramsOf, Form.pairs_eq written]
  exact Params.foldl_set ps [] distinct

end Service
end TextCatalog
