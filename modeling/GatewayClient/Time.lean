/-!
# Durations and instants

The client measures time in whole nanoseconds on a clock that starts at zero.
An instant stays below `Instant.limit`, the range of the clock; a deadline
beyond it cannot be set, so `Instant.after?` answers nothing for it and every
store says which of its operations ran into that limit.

`Duration.text` writes a duration for people: in the largest unit of which it
has at least one, with the decimals that are left over.
-/

namespace GatewayClient

/-- A length of time in nanoseconds. -/
abbrev Duration := Nat

/-- A point on the client's clock: the nanoseconds since it started. -/
abbrev Instant := Nat

namespace Duration

/-- Nanoseconds in a second. -/
def perSecond : Nat := 1000000000

/-- Nanoseconds in a millisecond. -/
def perMilli : Nat := 1000000

/-- The given number of seconds. -/
def ofSeconds (n : Nat) : Duration := n * perSecond

/-- The given number of milliseconds. -/
def ofMillis (n : Nat) : Duration := n * perMilli

/-- Whole seconds of a duration. -/
def seconds (d : Duration) : Nat := d / perSecond

/-- Nanoseconds of a duration beyond its whole seconds. -/
def subsecond (d : Duration) : Nat := d % perSecond

/-- Whole milliseconds of a duration. -/
def millis (d : Duration) : Nat := d / perMilli

/-- Whether a duration, or the time of an instant, is a whole number of milliseconds. -/
def IsWhole (d : Duration) : Prop := ofMillis d.millis = d

instance (d : Duration) : Decidable (IsWhole d) := inferInstanceAs (Decidable (_ = _))

@[simp] theorem millis_ofMillis (n : Nat) : (ofMillis n).millis = n :=
  Nat.mul_div_cancel n (by decide)

theorem isWhole_ofMillis (n : Nat) : IsWhole (ofMillis n) := by
  rw [IsWhole, millis_ofMillis]

namespace IsWhole

variable {c d : Duration}

theorem lt_iff (hc : IsWhole c) (hd : IsWhole d) : c < d ↔ millis c < millis d := by
  have h : ofMillis (millis c) < ofMillis (millis d) ↔ millis c < millis d :=
    Nat.mul_lt_mul_right (by decide)
  rwa [hc, hd] at h

theorem le_iff (hc : IsWhole c) (hd : IsWhole d) : c ≤ d ↔ millis c ≤ millis d := by
  rw [← Nat.not_lt, hd.lt_iff hc, Nat.not_lt]

theorem add_eq (hc : IsWhole c) (hd : IsWhole d) : c + d = ofMillis (millis c + millis d) := by
  rw [ofMillis, Nat.add_mul, ← ofMillis, ← ofMillis, hc, hd]

theorem sub_eq (hc : IsWhole c) (hd : IsWhole d) : c - d = ofMillis (millis c - millis d) := by
  rw [ofMillis, Nat.sub_mul, ← ofMillis, ← ofMillis, hc, hd]

theorem add (hc : IsWhole c) (hd : IsWhole d) : IsWhole (c + d) := by
  rw [hc.add_eq hd]
  exact isWhole_ofMillis _

theorem millis_add (hc : IsWhole c) (hd : IsWhole d) : millis (c + d) = millis c + millis d := by
  rw [hc.add_eq hd, millis_ofMillis]

end IsWhole

/-- The digits after the decimal point for `rest` parts of which a unit has
    `10 ^ places`: no trailing zeros, and no point at all for nothing. -/
def fraction (places rest : Nat) : List Char :=
  let digits := Nat.toDigits 10 rest
  let padded := List.replicate (places - digits.length) '0' ++ digits
  match (padded.reverse.dropWhile (· = '0')).reverse with
  | [] => []
  | shown => '.' :: shown

/-- `d` counted in a unit of `10 ^ places` nanoseconds. -/
def inUnit (places : Nat) (unit : String) (d : Duration) : String :=
  String.ofList (Nat.toDigits 10 (d / Nat.pow 10 places) ++
    fraction places (d % Nat.pow 10 places)) ++ unit

/-- A duration in the largest of s, ms, µs and ns of which it has at least one. -/
def text (d : Duration) : String :=
  if Nat.pow 10 9 ≤ d then inUnit 9 "s" d
  else if Nat.pow 10 6 ≤ d then inUnit 6 "ms" d
  else if Nat.pow 10 3 ≤ d then inUnit 3 "µs" d
  else inUnit 0 "ns" d

end Duration

namespace Instant

/-- The first instant beyond the clock. Its seconds are a signed 64-bit number on a
    clock that has been running for a second at least when the client's starts. -/
def limit : Instant := (Nat.pow 2 63 - 1) * Duration.perSecond

/-- The instant `d` after `now`, if the clock reaches it. -/
def after? (now : Instant) (d : Duration) : Option Instant :=
  if now + d < limit then some (now + d) else none

theorem after?_eq_some {now later : Instant} {d : Duration} (h : after? now d = some later) :
    later = now + d := by
  unfold after? at h
  split at h <;> simp_all

theorem after?_lt_limit {now later : Instant} {d : Duration} (h : after? now d = some later) :
    later < limit := by
  unfold after? at h
  split at h <;> simp_all

end Instant

end GatewayClient
