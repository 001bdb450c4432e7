/-! Lengths of time whose whole seconds fit 64 bits, counted in nanoseconds. The written form has
whole seconds and a rest below one second; the clock counts milliseconds and rounds up.
-/

namespace UpdaterLaunch

/-- Nanoseconds in a second. -/
def nanosPerSecond : Nat := 1000000000

/-- Nanoseconds in a millisecond. -/
def nanosPerMilli : Nat := 1000000

/-- A length of time whose whole seconds fit 64 bits. -/
structure Span where
  nanos : Nat
  inRange : nanos < UInt64.size * nanosPerSecond
deriving DecidableEq, Repr

namespace Span

/-- The whole seconds of a span. -/
def secs (s : Span) : UInt64 := .ofNat (s.nanos / nanosPerSecond)

/-- The nanoseconds of a span beyond its whole seconds. -/
def subsecNanos (s : Span) : UInt32 := .ofNat (s.nanos % nanosPerSecond)

/-- Seconds and nanoseconds together; a billion nanoseconds or more carry into the seconds, and
there is no span if these then leave their range.
-/
def ofParts? (secs : UInt64) (nanos : UInt32) : Option Span :=
  let total := secs.toNat * nanosPerSecond + nanos.toNat
  if h : total < UInt64.size * nanosPerSecond then some ⟨total, h⟩ else none

/-- Every count of milliseconds is a span, as a millisecond is less than a second. -/
def ofMillis (ms : UInt64) : Span where
  nanos := ms.toNat * nanosPerMilli
  inRange := by
    have := ms.toNat_lt
    simp only [nanosPerMilli, nanosPerSecond, UInt64.size]
    omega

/-- The clock ticks (milliseconds) after which a span is over: a part of a tick counts whole. -/
def ticks (s : Span) : Nat := (s.nanos + (nanosPerMilli - 1)) / nanosPerMilli

theorem ticks_ofMillis (ms : UInt64) : (ofMillis ms).ticks = ms.toNat := by
  simp only [ticks, ofMillis, nanosPerMilli]
  omega

/-- The whole seconds of a span fit their 64 bits. -/
theorem toNat_secs (s : Span) : s.secs.toNat = s.nanos / nanosPerSecond := by
  rw [secs, UInt64.toNat_ofNat']
  exact Nat.mod_eq_of_lt (Nat.div_lt_of_lt_mul (Nat.mul_comm _ _ ▸ s.inRange))

/-- What a span has beyond its whole seconds fits its 32 bits. -/
theorem toNat_subsecNanos (s : Span) : s.subsecNanos.toNat = s.nanos % nanosPerSecond := by
  rw [subsecNanos, UInt32.toNat_ofNat']
  refine Nat.mod_eq_of_lt (Nat.lt_trans (Nat.mod_lt _ ?_) ?_) <;> decide

/-- A span is put together again from its seconds and its rest. -/
theorem ofParts?_secs_subsecNanos (s : Span) : ofParts? s.secs s.subsecNanos = some s := by
  have total : s.secs.toNat * nanosPerSecond + s.subsecNanos.toNat = s.nanos := by
    rw [toNat_secs, toNat_subsecNanos, Nat.mul_comm]
    exact Nat.div_add_mod _ _
  unfold ofParts?
  simp only [total, s.inRange, dif_pos]

end Span

end UpdaterLaunch
