import PathSeal.Proofs.Duration.Parts
import PathSeal.Proofs.Retry.Waits

/-!
# PathSeal.Proofs.Retry.Backoff

How long the wait after an attempt is, exactly: the base delay doubled for each attempt
before, ten times at most, or the longest span if that is shorter
(`delayAfter_doubles`). Words come to the same, since their product overflows only where
a span has to be cut off (`delayAfter_eq_times?`).
-/

namespace PathSeal.RetryPolicy

/-! ## Factors -/

/-- The factor of a wait is a power of two. -/
theorem factor_eq_pow (attempt : Nat) : factor attempt = 2 ^ min (max attempt 1 - 1) 10 := by
  have hattempt : max attempt 1 - 1 = attempt - 1 := by omega
  rw [hattempt, factor, Nat.one_shiftLeft, maxDoublings]

/-- How often the wait after an attempt has doubled, as a word. Attempt 0 counts as the first. -/
def doublings (attempt : UInt32) : UInt32 :=
  min (if attempt = 0 then 0 else attempt - 1) maxDoublings.toUInt32

/-- The word is the number of doublings. -/
theorem toNat_doublings (attempt : UInt32) :
    (doublings attempt).toNat = min (attempt.toNat - 1) maxDoublings := by
  have hbefore : (if attempt = 0 then 0 else attempt - 1).toNat = attempt.toNat - 1 := by
    split
    · next hzero =>
      subst hzero
      rfl
    · next hne =>
      have hpos : 0 < attempt.toNat := Nat.pos_of_ne_zero fun h => hne (UInt32.toNat_inj.mp h)
      exact UInt32.toNat_sub_of_le attempt 1 (UInt32.le_iff_toNat_le.mpr hpos)
  rw [doublings, UInt32.toNat_min, hbefore]
  rfl

theorem toNat_one_shiftLeft_doublings (attempt : UInt32) :
    ((1 : UInt32) <<< doublings attempt).toNat = factor attempt.toNat := by
  have hword : factor attempt.toNat < 4294967296 :=
    Nat.lt_of_le_of_lt (factor_le attempt.toNat) (by decide)
  have hshift : (doublings attempt).toNat < 32 := by
    rw [toNat_doublings]
    exact Nat.lt_of_le_of_lt (Nat.min_le_right ..) (by decide)
  rw [UInt32.toNat_shiftLeft, Nat.mod_eq_of_lt hshift, toNat_doublings]
  exact Nat.mod_eq_of_lt hword

/-! ## Waits -/

section

variable (policy : RetryPolicy)

/-- Later waits are no shorter. -/
theorem delayAfter_monotone : Monotone policy.delayAfter :=
  fun _ _ h => Duration.toNanos_le_toNanos.mp (policy.toNanos_delayAfter_mono h)

/-- Nor are those of a longer base delay. -/
theorem delayAfter_monotone_base (attempt : Nat) :
    Monotone fun base => { policy with baseDelay := base }.delayAfter attempt := by
  intro base base' h
  have hscaled := Nat.mul_le_mul_right (factor attempt) (Duration.toNanos_le_toNanos.mpr h)
  rw [← Duration.toNanos_le_toNanos, toNanos_delayAfter, toNanos_delayAfter]
  dsimp only
  omega

/-- A wait is computed in words, and is the longest span if one overflows. -/
theorem delayAfter_eq_times? (attempt : UInt32) :
    policy.delayAfter attempt.toNat =
      (policy.baseDelay.times? (1 <<< doublings attempt)).getD .longest := by
  rw [← Duration.scale_eq_times?, toNat_one_shiftLeft_doublings]
  rfl

end

/-- **The wait doubles exactly, up to the longest span.** After an attempt it is the base delay
times a power of two: doubled for each attempt before, but no more than ten times, or the longest
span if that is shorter. Its seconds and its nanoseconds are the parts of this length. Neither
further attempts nor a longer base delay make it shorter.

Words of 64 bits come to the same span, with the longest one in place of a product that overflows.
So no wait wraps around, and none is cut off that a span could hold. -/
theorem delayAfter_doubles (policy : RetryPolicy) :
    (∀ attempt,
      let delay := policy.delayAfter attempt
      let total := policy.baseDelay.toNanos * 2 ^ min (max attempt 1 - 1) 10
      let longest := (2 ^ 64 - 1) * 10 ^ 9 + 999999999
      delay.toNanos = min total longest ∧
        delay.seconds.toNat = min total longest / 10 ^ 9 ∧
        delay.nanos = min total longest % 10 ^ 9 ∧ delay.nanos < 10 ^ 9) ∧
    Monotone policy.delayAfter ∧
    (∀ attempt, Monotone fun base => { policy with baseDelay := base }.delayAfter attempt) ∧
    ∀ attempt : UInt32,
      policy.delayAfter attempt.toNat =
        (policy.baseDelay.times? (1 <<< doublings attempt)).getD .longest := by
  refine ⟨fun attempt => ?_, policy.delayAfter_monotone, policy.delayAfter_monotone_base,
    policy.delayAfter_eq_times?⟩
  intro delay total longest
  have hlongest : Duration.longest.toNanos = longest := rfl
  have hnanos : delay.toNanos = min total longest := by
    rw [policy.toNanos_delayAfter attempt, factor_eq_pow, hlongest]
  obtain ⟨hseconds, hrest⟩ := delay.parts_eq
  rw [hnanos] at hseconds hrest
  exact ⟨hnanos, hseconds, hrest, delay.nanos_lt⟩

/-- From 100 ms the wait doubles up to 1024 times that. -/
example : [0, 1, 2, 3, 10, 11, 100].map standard.delayAfter =
    [100, 100, 200, 400, 51200, 102400, 102400].map .ofMillis := by decide +kernel

/-- Twice the longest span that can be doubled is a nanosecond short of the longest; twice the next
one is cut off. -/
example : (RetryPolicy.mk 3 { seconds := 9223372036854775807, nanos := 999999999 }).delayAfter 2 =
      { seconds := 18446744073709551615, nanos := 999999998 } ∧
    (RetryPolicy.mk 3 { seconds := 9223372036854775808, nanos := 0 }).delayAfter 2 = .longest := by
  decide +kernel

end PathSeal.RetryPolicy
