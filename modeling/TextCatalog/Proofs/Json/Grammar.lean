import Mathlib.Data.List.DropRight
import TextCatalog.Json.Reader

/-!
# TextCatalog.Proofs.Json.Grammar

What it is for a text to begin with a document, as rules of JSON without a reader.

* `WritesText` — a string literal without its opening quote, and the text that it denotes.
* `WritesNumeral`, `Numeral.IsFinite` — a number as it is written, and whether it has a value.
* `Begins` — values, the items of a list and the members of an object, nested so deep at most. With
  embedding, an object whose first member is named `embeddedName` is not read as an object.
* `Begins.bare` — a text that begins with a document with embedding begins with one without it.
* `Begins.direct` — they are the same where no object has such a first member.
-/

namespace TextCatalog
namespace Json

open Text

/-! ## Strings -/

def IsSurrogate (n : Nat) : Prop := isLeading n = true ∨ isTrailing n = true

/-- `WritesText s t rest`: up to a quote, after which `rest` stands, `s` denotes the text `t`. -/
inductive WritesText : List Char → List Char → List Char → Prop where
  | close {rest : List Char} : WritesText ('"' :: rest) [] rest
  | plain {c : Char} {s t rest : List Char} (noQuote : c ≠ '"') (noEscape : c ≠ '\\')
    (printed : 0x20 ≤ c.toNat) (more : WritesText s t rest) : WritesText (c :: s) (c :: t) rest
  | short {e c : Char} {s t rest : List Char} (escape : shortEscape? e = some c)
    (more : WritesText s t rest) : WritesText ('\\' :: e :: s) (c :: t) rest
  | unit {w x y z : Char} {n : Nat} {s t rest : List Char} (hex : unit? w x y z = some n)
    (alone : ¬IsSurrogate n) (more : WritesText s t rest) :
    WritesText ('\\' :: 'u' :: w :: x :: y :: z :: s) (Char.ofNat n :: t) rest
  | pair {w x y z w' x' y' z' : Char} {high low : Nat} {s t rest : List Char}
    (hex : unit? w x y z = some high) (leading : isLeading high = true)
    (hex' : unit? w' x' y' z' = some low) (trailing : isTrailing low = true)
    (more : WritesText s t rest) :
    WritesText
      ('\\' :: 'u' :: w :: x :: y :: z :: '\\' :: 'u' :: w' :: x' :: y' :: z' :: s)
      (Char.ofNat (pairValue high low) :: t) rest

/-! ## Numbers -/

/-- All the digits that a text begins with, at least one. -/
structure IsRun (s ds rest : List Char) : Prop where
  split : s = ds ++ rest
  ne : ds ≠ []
  digits : ∀ c ∈ ds, c.isDigit = true
  ends : ∀ c ∈ rest.head?, c.isDigit = false

/-- Digits with no needless zero in front. -/
def WritesWhole (s : List Char) (n : Nat) (rest : List Char) : Prop :=
  ∃ ds, IsRun s ds rest ∧ (ds = ['0'] ∨ ds.head? ≠ some '0') ∧ numeralValue ds = n

inductive WritesFraction : List Char → List Char → List Char → Prop where
  | absent {s : List Char} (other : ∀ c ∈ s.head?, c ≠ '.') : WritesFraction s [] s
  | digits {s ds rest : List Char} (run : IsRun s ds rest) : WritesFraction ('.' :: s) ds rest

def IsExponentMark (c : Char) : Prop := c = 'e' ∨ c = 'E'

inductive WritesExponent : List Char → Option Int → List Char → Prop where
  | absent {s : List Char} (other : ∀ c ∈ s.head?, ¬IsExponentMark c) : WritesExponent s none s
  | minus {c : Char} {s ds rest : List Char} (mark : IsExponentMark c) (run : IsRun s ds rest) :
    WritesExponent (c :: '-' :: s) (some (-(numeralValue ds : Int))) rest
  | plus {c : Char} {s ds rest : List Char} (mark : IsExponentMark c) (run : IsRun s ds rest) :
    WritesExponent (c :: '+' :: s) (some (numeralValue ds : Int)) rest
  | unsigned {c : Char} {s ds rest : List Char} (mark : IsExponentMark c) (run : IsRun s ds rest) :
    WritesExponent (c :: s) (some (numeralValue ds : Int)) rest

def WritesUnsigned (s : List Char) (n : Numeral) (rest : List Char) : Prop :=
  ∃ u v, WritesWhole s n.whole u ∧ WritesFraction u n.fraction v ∧ WritesExponent v n.exponent rest

def WritesNumeral (s : List Char) (n : Numeral) (rest : List Char) : Prop :=
  ∃ u, s = (if n.negative then ['-'] else []) ++ u ∧ WritesUnsigned u n rest

namespace Numeral

def IsZero (n : Numeral) : Prop := n.whole = 0 ∧ ∀ d ∈ n.fraction, d = '0'

/-- Only zero may have an exponent beyond the limit. -/
def IsLimited (n : Numeral) : Prop := n.IsZero ∨ ∀ e ∈ n.exponent, e ≤ (maxExponent : Int)

/-- The numeral stands for a number, and its exponent is within limits. -/
def IsFinite (n : Numeral) : Prop := n.number?.isSome = true ∧ n.IsLimited

end Numeral

/-! ## Values -/

/-- A word that is a value, or a number. -/
inductive WritesScalar : List Char → Json → List Char → Prop where
  | null {rest : List Char} : WritesScalar ("null".toList ++ rest) .null rest
  | true {rest : List Char} : WritesScalar ("true".toList ++ rest) (.bool true) rest
  | false {rest : List Char} : WritesScalar ("false".toList ++ rest) (.bool false) rest
  | number {s rest : List Char} {n : Numeral} (written : WritesNumeral s n rest)
    (finite : n.IsFinite) : WritesScalar s (.num n) rest

/-- A name, a colon, and then `rest`. -/
def Names (s name rest : List Char) : Prop :=
  ∃ u v, skipSpace s = '"' :: u ∧ WritesText u name v ∧ skipSpace v = ':' :: rest

/-- A value, or from one on the items of a list or the members of an object. -/
inductive Part where
  | value (j : Json)
  | items (items : List Json)
  | members (members : List (Option String × Json))

def firstName : List (Option String × Json) → Option String
  | [] => none
  | (name, _) :: _ => name

/--
`Begins embedding depth s p rest`: `s` begins with `p`, in which containers are nested `depth` deep
at most, and `rest` follows it.
-/
inductive Begins (embedding : Bool) : Nat → List Char → Part → List Char → Prop where
  | scalar {d : Nat} {s rest : List Char} {j : Json} (written : WritesScalar (skipSpace s) j rest) :
    Begins embedding d s (.value j) rest
  | text {d : Nat} {s u t rest : List Char} (shown : skipSpace s = '"' :: u)
    (written : WritesText u t rest) : Begins embedding d s (.value (.str (String.ofList t))) rest
  | emptyList {d : Nat} {s u rest : List Char} (shown : skipSpace s = '[' :: u)
    (closed : skipSpace u = ']' :: rest) : Begins embedding (d + 1) s (.value (.arr [])) rest
  | list {d : Nat} {s u rest : List Char} {items : List Json} (shown : skipSpace s = '[' :: u)
    (each : Begins embedding d u (.items items) rest) :
    Begins embedding (d + 1) s (.value (.arr items)) rest
  | emptyObject {d : Nat} {s u rest : List Char} (shown : skipSpace s = '\x7b' :: u)
    (closed : skipSpace u = '\x7d' :: rest) : Begins embedding (d + 1) s (.value (.obj [])) rest
  | object {d : Nat} {s u rest : List Char} {members : List (Option String × Json)}
    (shown : skipSpace s = '\x7b' :: u) (each : Begins embedding d u (.members members) rest)
    (plain : embedding = true → firstName members ≠ some embeddedName) :
    Begins embedding (d + 1) s (.value (.obj members)) rest
  | embedded {d : Nat} {s u v w t x y rest : List Char} {j : Json} (on : embedding = true)
    (shown : skipSpace s = '\x7b' :: u) (named : Names u embeddedName.toList v)
    (quoted : skipSpace v = '"' :: w) (written : WritesText w t x)
    (closed : skipSpace x = '\x7d' :: rest)
    (document : Begins embedding maxDepth t (.value j) y) (whole : skipSpace y = []) :
    Begins embedding (d + 1) s (.value j) rest
  | lastItem {d : Nat} {s t rest : List Char} {j : Json} (first : Begins embedding d s (.value j) t)
    (closed : skipSpace t = ']' :: rest) : Begins embedding d s (.items [j]) rest
  | item {d : Nat} {s t u rest : List Char} {j : Json} {items : List Json}
    (first : Begins embedding d s (.value j) t) (parted : skipSpace t = ',' :: u)
    (others : Begins embedding d u (.items items) rest) :
    Begins embedding d s (.items (j :: items)) rest
  | lastMember {d : Nat} {s name u t rest : List Char} {j : Json} (named : Names s name u)
    (first : Begins embedding d u (.value j) t) (closed : skipSpace t = '\x7d' :: rest) :
    Begins embedding d s (.members [(some (String.ofList name), j)]) rest
  | member {d : Nat} {s name u t v rest : List Char} {j : Json}
    {members : List (Option String × Json)} (named : Names s name u)
    (first : Begins embedding d u (.value j) t) (parted : skipSpace t = ',' :: v)
    (others : Begins embedding d v (.members members) rest) :
    Begins embedding d s (.members ((some (String.ofList name), j) :: members)) rest

variable {embedding : Bool} {d : Nat} {s u rest : List Char} {p : Part} {j : Json}

/-- The text begins with a value, in which containers are nested no deeper than they may be. -/
def Starts (embedding : Bool) (s : List Char) (j : Json) : Prop :=
  ∃ rest, Begins embedding maxDepth s (.value j) rest

/-! ## Blanks in front -/

theorem skipSpace_skipSpace (s : List Char) : skipSpace (skipSpace s) = skipSpace s :=
  List.dropWhile_idempotent isSpace s

theorem Names.of_skipSpace_eq {name : List Char} (h : Names s name rest)
    (same : skipSpace u = skipSpace s) : Names u name rest := by
  obtain ⟨v, w, shown, written, colon⟩ := h
  exact ⟨v, w, same.trans shown, written, colon⟩

/-- Blanks in front of a part are of no account. -/
theorem Begins.of_skipSpace_eq (h : Begins embedding d s p rest)
    (same : skipSpace u = skipSpace s) : Begins embedding d u p rest := by
  induction h with
  | scalar written => exact .scalar (same.symm ▸ written)
  | text shown written => exact .text (same.trans shown) written
  | emptyList shown closed => exact .emptyList (same.trans shown) closed
  | list shown each => exact .list (same.trans shown) each
  | emptyObject shown closed => exact .emptyObject (same.trans shown) closed
  | object shown each plain => exact .object (same.trans shown) each plain
  | embedded on shown named quoted written closed document whole =>
    exact .embedded on (same.trans shown) named quoted written closed document whole
  | lastItem _ closed ih => exact .lastItem (ih same) closed
  | item _ parted others ih => exact .item (ih same) parted others
  | lastMember named first closed => exact .lastMember (named.of_skipSpace_eq same) first closed
  | member named first parted others =>
    exact .member (named.of_skipSpace_eq same) first parted others

/-! ## Embedding -/

/-- A part of the same kind, and under the same first name. -/
inductive Part.Alike : Part → Part → Prop where
  | value (i j : Json) : Alike (.value i) (.value j)
  | items (is js : List Json) : Alike (.items is) (.items js)
  | members {ms ns : List (Option String × Json)} (same : firstName ms = firstName ns) :
    Alike (.members ms) (.members ns)

/-- Without embedding, an object that would embed a document is an object of one member. -/
theorem Begins.bare (h : Begins embedding d s p rest) :
    ∃ q, p.Alike q ∧ Begins false d s q rest := by
  induction h with
  | scalar written => exact ⟨_, .value _ _, .scalar written⟩
  | text shown written => exact ⟨_, .value _ _, .text shown written⟩
  | emptyList shown closed => exact ⟨_, .value _ _, .emptyList shown closed⟩
  | list shown _ ih =>
    obtain ⟨_, ⟨⟩, each⟩ := ih
    exact ⟨_, .value _ _, .list shown each⟩
  | emptyObject shown closed => exact ⟨_, .value _ _, .emptyObject shown closed⟩
  | object shown _ _ ih =>
    obtain ⟨_, ⟨_⟩, each⟩ := ih
    exact ⟨_, .value _ _, .object shown each (by rintro ⟨⟩)⟩
  | embedded on shown named quoted written closed =>
    exact ⟨_, .value _ _, .object shown (.lastMember named (.text quoted written) closed)
      (by rintro ⟨⟩)⟩
  | lastItem _ closed ih =>
    obtain ⟨_, ⟨⟩, first⟩ := ih
    exact ⟨_, .items _ _, .lastItem first closed⟩
  | item _ parted _ ih ih' =>
    obtain ⟨_, ⟨⟩, first⟩ := ih
    obtain ⟨_, ⟨⟩, others⟩ := ih'
    exact ⟨_, .items _ _, .item first parted others⟩
  | lastMember named _ closed ih =>
    obtain ⟨_, ⟨⟩, first⟩ := ih
    refine ⟨_, .members ?_, .lastMember named first closed⟩
    rfl
  | member named _ parted _ ih ih' =>
    obtain ⟨_, ⟨⟩, first⟩ := ih
    obtain ⟨_, ⟨_⟩, others⟩ := ih'
    refine ⟨_, .members ?_, .member named first parted others⟩
    rfl

/-- No object, at any depth, has a first member that makes it embed a document. -/
inductive IsDirect : Json → Prop where
  | null : IsDirect .null
  | bool (b : Bool) : IsDirect (.bool b)
  | num (n : Numeral) : IsDirect (.num n)
  | str (t : String) : IsDirect (.str t)
  | unpaired : IsDirect .unpaired
  | arr {items : List Json} (each : ∀ j ∈ items, IsDirect j) : IsDirect (.arr items)
  | obj {members : List (Option String × Json)} (plain : firstName members ≠ some embeddedName)
    (each : ∀ m ∈ members, IsDirect m.2) : IsDirect (.obj members)

def Part.IsDirect : Part → Prop
  | .value j => j.IsDirect
  | .items is => ∀ j ∈ is, j.IsDirect
  | .members ms => ∀ m ∈ ms, m.2.IsDirect

/-- Where nothing can be embedded, embedding is of no account. -/
theorem Begins.direct (h : Begins false d s p rest) (plain : p.IsDirect) :
    Begins true d s p rest := by
  induction h with
  | scalar written => exact .scalar written
  | text shown written => exact .text shown written
  | emptyList shown closed => exact .emptyList shown closed
  | list shown _ ih =>
    cases plain with
    | arr each => exact .list shown (ih each)
  | emptyObject shown closed => exact .emptyObject shown closed
  | object shown _ _ ih =>
    cases plain with
    | obj first each => exact .object shown (ih each) fun _ => first
  | embedded on => cases on
  | lastItem _ closed ih => exact .lastItem (ih (plain _ List.mem_cons_self)) closed
  | item _ parted _ ih ih' =>
    obtain ⟨first, others⟩ := List.forall_mem_cons.mp plain
    exact .item (ih first) parted (ih' others)
  | lastMember named _ closed ih =>
    exact .lastMember named (ih (plain _ List.mem_cons_self)) closed
  | member named _ parted _ ih ih' =>
    obtain ⟨first, others⟩ := List.forall_mem_cons.mp plain
    exact .member named (ih first) parted (ih' others)

theorem Starts.bare (h : Starts embedding s j) : ∃ i, Starts false s i := by
  obtain ⟨rest, begins⟩ := h
  obtain ⟨_, ⟨_, i⟩, bare⟩ := begins.bare
  exact ⟨i, rest, bare⟩

theorem Starts.direct (h : Starts false s j) (plain : j.IsDirect) : Starts true s j := by
  obtain ⟨rest, begins⟩ := h
  exact ⟨rest, begins.direct plain⟩

end Json
end TextCatalog
