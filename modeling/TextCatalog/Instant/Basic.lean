/-!
# TextCatalog.Instant.Basic

Instants of Coordinated Universal Time, to the nanosecond.

A leap second is the second half of a doubled second: its nanoseconds go on from a whole second
to two, and it stands only at the end of a minute.
-/

namespace TextCatalog

def nanosPerSecond : Nat := 1000000000

/-- Seconds are counted from 1970-01-01T00:00:00Z without leap seconds. -/
structure Instant where
  seconds : Int
  nanos : Nat
  inRange : -8334601228800 ≤ seconds ∧ seconds ≤ 8210266876799
  nanos_lt : nanos < 2 * nanosPerSecond
  leap : nanosPerSecond ≤ nanos → seconds % 60 = 59
  deriving DecidableEq

namespace Instant

def ofUnix? (seconds : Int) (nanos : Nat) : Option Instant :=
  if h : (-8334601228800 ≤ seconds ∧ seconds ≤ 8210266876799) ∧ nanos < 2 * nanosPerSecond ∧
      (nanosPerSecond ≤ nanos → seconds % 60 = 59) then
    some ⟨seconds, nanos, h.1, h.2.1, h.2.2⟩
  else none

theorem ofUnix?_self (t : Instant) : ofUnix? t.seconds t.nanos = some t := by
  unfold ofUnix?
  rw [dif_pos ⟨t.inRange, t.nanos_lt, t.leap⟩]

def epoch : Instant := ⟨0, 0, by decide, by decide, by decide⟩

def isBefore (s t : Instant) : Bool :=
  decide (s.seconds < t.seconds) || (decide (s.seconds = t.seconds) && decide (s.nanos < t.nanos))

instance : LT Instant := ⟨fun s t => s.isBefore t = true⟩

instance (s t : Instant) : Decidable (s < t) := inferInstanceAs (Decidable (s.isBefore t = true))

theorem lt_iff {s t : Instant} :
    s < t ↔ s.seconds < t.seconds ∨ (s.seconds = t.seconds ∧ s.nanos < t.nanos) := by
  show s.isBefore t = true ↔ _
  simp [isBefore]

end Instant

end TextCatalog
