import TextCatalog.Text.Digits
import TextCatalog.Text.Reader

/-!
# TextCatalog.Net.Address

Socket addresses: a host of version 4 or 6 and a port.

* `SocketAddress.ofText?` — reading an address. A host of version 6 stands in brackets and may
  have a scope.
* `SocketAddress.text` — its usual form: lower case, and the first of the longest runs of two
  or more zero groups left out.
-/

namespace TextCatalog

open Text

structure HostV4 where
  a : Nat
  b : Nat
  c : Nat
  d : Nat
  deriving DecidableEq

/-- Eight groups of 16 bits. -/
structure HostV6 where
  groups : List Nat
  deriving DecidableEq

inductive SocketAddress where
  | v4 (host : HostV4) (port : Nat)
  | v6 (host : HostV6) (scope port : Nat)
  deriving DecidableEq

namespace SocketAddress

/-! ## Reading -/

/-- A number below a limit, zeros in front allowed. -/
def numberBelow (limit : Nat) : Reader Nat := do
  let n ← anyNumber
  if n < limit then return n else failure

/-- One to three digits without a needless zero in front. -/
def octet : Reader Nat := fun s =>
  match leadingDigits s with
  | [] => none
  | '0' :: _ :: _ => none
  | digits =>
    if digits.length ≤ 3 ∧ numeralValue digits < 256 then
      some (numeralValue digits, s.drop digits.length)
    else none

def hostV4 : Reader HostV4 := do
  let a ← octet
  mark '.'
  let b ← octet
  mark '.'
  let c ← octet
  mark '.'
  let d ← octet
  return ⟨a, b, c, d⟩

def hexNumber (digits : List Char) : Nat :=
  digits.foldl (fun n c => n * 16 + (hexValue? c).getD 0) 0

/-- One to four hexadecimal digits. -/
def group : Reader Nat := fun s =>
  match s.takeWhile fun c => (hexValue? c).isSome with
  | [] => none
  | digits => if digits.length ≤ 4 then some (hexNumber digits, s.drop digits.length) else none

/-- All but the first group have a colon before them. -/
def afterColon {α : Type} (isFirst : Bool) (r : Reader α) : Reader α := do
  if isFirst then r
  else
    mark ':'
    r

structure Groups where
  list : List Nat
  endsInV4 : Bool
  deriving DecidableEq

def HostV4.asGroups (h : HostV4) : List Nat := [h.a * 256 + h.b, h.c * 256 + h.d]

/-- As many groups as there are, up to a limit; a host of version 4 counts as the last two. -/
def groups (isFirst : Bool) : Nat → List Char → Groups × List Char
  | 0, s => (⟨[], false⟩, s)
  | n + 1, s =>
    match if n = 0 then none else afterColon isFirst hostV4 s with
    | some (h, rest) => (⟨HostV4.asGroups h, true⟩, rest)
    | none =>
      match afterColon isFirst group s with
      | none => (⟨[], false⟩, s)
      | some (g, rest) =>
        let (gs, rest) := groups false n rest
        (⟨g :: gs.list, gs.endsInV4⟩, rest)

/-- Two colons stand for at least one zero group. -/
def hostV6 : Reader HostV6 := fun s =>
  let (head, s) := groups true 8 s
  if head.list.length = 8 then some (⟨head.list⟩, s)
  else if head.endsInV4 then none
  else
    match s with
    | ':' :: ':' :: s =>
      let (tail, s) := groups true (7 - head.list.length) s
      let zeros := List.replicate (8 - head.list.length - tail.list.length) 0
      some (⟨head.list ++ zeros ++ tail.list⟩, s)
    | _ => none

def scope : Reader Nat := fun s =>
  match s with
  | '%' :: rest => numberBelow 4294967296 rest
  | _ => some (0, s)

def port : Reader Nat := do
  mark ':'
  numberBelow 65536

def addressV4 : Reader SocketAddress := do
  let host ← hostV4
  return .v4 host (← port)

def addressV6 : Reader SocketAddress := do
  mark '['
  let host ← hostV6
  let scope ← scope
  mark ']'
  return .v6 host scope (← port)

def ofText? (s : String) : Option SocketAddress :=
  Reader.whole? (addressV4 <|> addressV6) s.toList

/-! ## Writing -/

def dotted (h : HostV4) : String :=
  ".".intercalate ([h.a, h.b, h.c, h.d].map toString)

def hexText (n : Nat) : String := String.ofList (Nat.toDigits 16 n)

def joined (groups : List Nat) : String := ":".intercalate (groups.map hexText)

structure Run where
  start : Nat
  length : Nat
  deriving DecidableEq

/-- The first of the longest runs of zeros, given the run that is under way and the best so far. -/
def longestZeros (index : Nat) (current best : Run) : List Nat → Run
  | [] => best
  | 0 :: rest =>
    let current := if current.length = 0 then ⟨index, 1⟩ else ⟨current.start, current.length + 1⟩
    longestZeros (index + 1) current (if best.length < current.length then current else best) rest
  | _ :: rest => longestZeros (index + 1) ⟨0, 0⟩ best rest

def compressed (groups : List Nat) : String :=
  let run := longestZeros 0 ⟨0, 0⟩ ⟨0, 0⟩ groups
  if 1 < run.length then
    joined (groups.take run.start) ++ "::" ++ joined (groups.drop (run.start + run.length))
  else joined groups

/-- A host of version 4 within version 6 is written as the former. -/
def textV6 (h : HostV6) : String :=
  match h.groups with
  | [0, 0, 0, 0, 0, 0xffff, ab, cd] =>
    "::ffff:" ++ dotted ⟨ab / 256, ab % 256, cd / 256, cd % 256⟩
  | groups => compressed groups

def scopeText (scope : Nat) : String := if scope = 0 then "" else "%" ++ toString scope

def text : SocketAddress → String
  | .v4 host port => dotted host ++ ":" ++ toString port
  | .v6 host scope port => "[" ++ textV6 host ++ scopeText scope ++ "]:" ++ toString port

end SocketAddress

end TextCatalog
