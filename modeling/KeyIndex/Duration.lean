import KeyIndex.Json.Record

/-!
# Durations

A span of time in seconds and nanoseconds, as settings give it.

Main definitions:

- `Duration.ofParts?`: whole seconds carried over from the nanoseconds.
- `Duration.inNanos`: the span as one number.
-/

namespace KeyIndex

/-- The nanoseconds in a second. -/
def nanosPerSecond : Nat := 1000000000

/-- The nanoseconds in a millisecond. -/
def nanosPerMilli : Nat := 1000000

/-- A span of time. -/
structure Duration where
  seconds : UInt64
  nanos : UInt32
  nanos_lt : nanos.toNat < nanosPerSecond := by decide
deriving DecidableEq

namespace Duration

/-- Some whole seconds. -/
def ofSeconds (seconds : UInt64) : Duration where
  seconds := seconds
  nanos := 0

instance : Inhabited Duration := ⟨ofSeconds 0⟩

/-- A number of nanoseconds is a duration unless its seconds take more than 64
bits. -/
def ofNanos? (n : Nat) : Option Duration :=
  if n / nanosPerSecond < UInt64.size then
    some {
      seconds := .ofNat (n / nanosPerSecond)
      nanos := .ofNat (n % nanosPerSecond)
      nanos_lt := by
        have h : n % nanosPerSecond < nanosPerSecond := Nat.mod_lt _ (by decide)
        rw [UInt32.toNat_ofNat', Nat.mod_eq_of_lt (Nat.lt_trans h (by decide))]
        exact h }
  else none

/-- Seconds and nanoseconds, of which whole seconds are carried over. -/
def ofParts? (seconds : UInt64) (nanos : UInt32) : Option Duration :=
  ofNanos? (seconds.toNat * nanosPerSecond + nanos.toNat)

/-- The span in nanoseconds. -/
def inNanos (d : Duration) : Nat := d.seconds.toNat * nanosPerSecond + d.nanos.toNat

/-- Whether the span is empty. -/
def isZero (d : Duration) : Bool := d.inNanos == 0

end Duration

/-! ## JSON form -/

open Json in
instance : Form Duration where
  toValue d := .object [("secs", toValue d.seconds), ("nanos", toValue d.nanos)]
  ofTree? tree := do
    let fields ← tree.exactFields? ["secs", "nanos"]
    Duration.ofParts? (← fields.need "secs") (← fields.need "nanos")

end KeyIndex
