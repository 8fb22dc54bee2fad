import PathSeal.Duration

/-!
# PathSeal.Proofs.Duration

Spans in nanoseconds. Scaling multiplies them, up to the longest span
(`toNanos_scale`). A timer runs for as many whole milliseconds as cover a span
(`ticks_eq`); for a span of whole milliseconds that is exact
(`wholeMillis_mul_of_dvd`).
-/

namespace PathSeal.Duration

/-- The fewest whole milliseconds that cover a span. -/
def wholeMillis (d : Duration) : Nat :=
  (d.toNanos + 999999) / 1000000

/-- A timer runs for the milliseconds that cover a span, but no longer than any timer. -/
theorem ticks_eq (d : Duration) : d.ticks = min d.wholeMillis maxTicks := rfl

/-- A span of whole milliseconds is covered exactly. -/
theorem wholeMillis_mul_of_dvd {d : Duration} (h : 1000000 ∣ d.toNanos) :
    d.wholeMillis * 1000000 = d.toNanos := by
  obtain ⟨n, hn⟩ := h
  rw [wholeMillis, hn]
  omega

theorem toNanos_ofMillis (n : UInt64) : (ofMillis n).toNanos = n.toNat * 1000000 := by
  have hdiv : (n / 1000).toNat = n.toNat / 1000 := UInt64.toNat_div n 1000
  rw [toNanos, ofMillis, hdiv]
  dsimp only
  omega

theorem ticks_ofMillis (n : UInt64) : (ofMillis n).ticks = min n.toNat maxTicks := by
  have hexact : (ofMillis n).wholeMillis = n.toNat := by
    rw [wholeMillis, toNanos_ofMillis]
    omega
  rw [ticks_eq, hexact]

/-- No span is longer than the longest. -/
theorem toNanos_le_longest (d : Duration) : d.toNanos ≤ longest.toNanos := by
  have hseconds : d.seconds.toNat < 18446744073709551616 := d.seconds.toNat_lt
  have hnanos := d.nanos_lt
  have hlongest : longest.toNanos = 18446744073709551615 * 1000000000 + 999999999 := rfl
  rw [hlongest, toNanos]
  omega

/-- A product in seconds and nanoseconds, before any nanoseconds are carried over. -/
theorem toNanos_mul (d : Duration) (factor : Nat) :
    d.toNanos * factor = d.seconds.toNat * factor * 1000000000 + d.nanos * factor := by
  rw [toNanos, Nat.add_mul, Nat.mul_right_comm]

/-- A scaled span is that many times as long, or the longest span if that is shorter. -/
theorem toNanos_scale (d : Duration) (factor : Nat) :
    (d.scale factor).toNanos = min (d.toNanos * factor) longest.toNanos := by
  have hlongest : longest.toNanos = 18446744073709551615 * 1000000000 + 999999999 := rfl
  have hsize : UInt64.size = 18446744073709551616 := rfl
  have hproduct := d.toNanos_mul factor
  rw [scale]
  split
  · next hfits =>
    have hseconds : (d.seconds.toNat * factor + d.nanos * factor / 1000000000).toUInt64.toNat =
        d.seconds.toNat * factor + d.nanos * factor / 1000000000 := by
      rw [Nat.toUInt64]
      exact UInt64.toNat_ofNat_of_lt' hfits
    rw [toNanos, hseconds, hproduct, hlongest]
    dsimp only
    omega
  · rw [hproduct, hlongest]
    omega

/-! ## Timers -/

/-- A timer does not run short of a span, unless the span is longer than any timer runs. -/
theorem min_le_ticks_mul (d : Duration) :
    min d.toNanos (maxTicks * 1000000) ≤ d.ticks * 1000000 := by
  rw [ticks_eq, wholeMillis]
  omega

/-- Two timers one after another do not run short of both spans together. -/
theorem min_add_le {a b m n cap : Nat} (ha : min a cap ≤ m) (hb : min b cap ≤ n) :
    min (a + b) cap ≤ m + n := by
  omega

/-- A timer that is set in milliseconds runs no longer than it is set. -/
theorem ticks_ofMillis_mul_le (n : UInt64) :
    (ofMillis n).ticks * 1000000 ≤ (ofMillis n).toNanos := by
  rw [ticks_ofMillis, toNanos_ofMillis]
  omega

/-- Nor does one that is set to that time over and over, or to the longest span. -/
theorem ticks_scale_ofMillis_mul_le (n : UInt64) (factor : Nat) :
    ((ofMillis n).scale factor).ticks * 1000000 ≤ ((ofMillis n).scale factor).toNanos := by
  have hscale := toNanos_scale (ofMillis n) factor
  rw [toNanos_ofMillis] at hscale
  rcases Nat.le_total (n.toNat * 1000000 * factor) longest.toNanos with hle | hle
  · rw [Nat.min_eq_left hle] at hscale
    have hdvd : 1000000 ∣ ((ofMillis n).scale factor).toNanos := by
      rw [hscale, Nat.mul_right_comm]
      exact Nat.dvd_mul_left _ _
    calc ((ofMillis n).scale factor).ticks * 1000000
        ≤ ((ofMillis n).scale factor).wholeMillis * 1000000 :=
          Nat.mul_le_mul_right _ (Nat.min_le_left ..)
      _ = ((ofMillis n).scale factor).toNanos := wholeMillis_mul_of_dvd hdvd
  · rw [Nat.min_eq_right hle] at hscale
    calc ((ofMillis n).scale factor).ticks * 1000000
        ≤ maxTicks * 1000000 := Nat.mul_le_mul_right _ (Nat.min_le_right ..)
      _ ≤ longest.toNanos := by decide
      _ = ((ofMillis n).scale factor).toNanos := hscale.symm

end PathSeal.Duration
