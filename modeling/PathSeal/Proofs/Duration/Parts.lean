import Mathlib.Data.Prod.Lex
import PathSeal.Proofs.Duration

/-!
# PathSeal.Proofs.Duration.Parts

A span by its whole seconds and its nanoseconds beyond them. The length fixes both
(`parts_eq`). So spans that are compared part by part are in order of their lengths
(`toNanos_le_toNanos`).

A span can be scaled part by part too, in words of 64 bits (`times?`). The
nanoseconds never overflow. The seconds do exactly if the product is longer than any
span, be it before the nanoseconds are carried over or only then
(`times?_eq_none_iff`). So words come to the same span as numbers without a limit
(`scale_eq_times?`).
-/

namespace PathSeal

/-! ## Words of 64 bits -/

namespace Word

/-- The word that an operation leaves, unless its result takes more than a word. -/
def checked (result : Nat) (word : UInt64) : Option UInt64 :=
  if result < UInt64.size then some word else none

/-- The sum of two words, unless it takes more than one. -/
def sum? (a b : UInt64) : Option UInt64 :=
  checked (a.toNat + b.toNat) (a + b)

/-- The product of two words, unless it takes more than one. -/
def product? (a b : UInt64) : Option UInt64 :=
  checked (a.toNat * b.toNat) (a * b)

/-- A result that takes no more than a word is exact, if at worst the bits beyond it are lost. -/
theorem checked_eq_some_iff {result : Nat} {word c : UInt64}
    (hword : word.toNat = result % UInt64.size) :
    checked result word = some c ↔ result = c.toNat := by
  have hc : c.toNat < UInt64.size := c.toNat_lt
  rw [checked]
  split
  · next hfits => rw [Option.some_inj, ← UInt64.toNat_inj, hword, Nat.mod_eq_of_lt hfits]
  · next hover =>
    simp only [reduceCtorEq, false_iff]
    omega

theorem sum?_eq_some_iff {a b c : UInt64} : sum? a b = some c ↔ a.toNat + b.toNat = c.toNat :=
  checked_eq_some_iff (UInt64.toNat_add a b)

theorem product?_eq_some_iff {a b c : UInt64} :
    product? a b = some c ↔ a.toNat * b.toNat = c.toNat :=
  checked_eq_some_iff (UInt64.toNat_mul a b)

end Word

namespace Duration

open Word

/-! ## Lengths -/

/-- The parts of a span are the whole seconds of its length and the rest. -/
theorem parts_eq (d : Duration) :
    d.seconds.toNat = d.toNanos / 1000000000 ∧ d.nanos = d.toNanos % 1000000000 := by
  have hnanos := d.nanos_lt
  rw [toNanos]
  omega

/-- Spans are equal if their parts are. -/
theorem eq_of_parts {d e : Duration} (hseconds : d.seconds.toNat = e.seconds.toNat)
    (hnanos : d.nanos = e.nanos) : d = e := by
  obtain ⟨seconds, nanos, _⟩ := d
  obtain ⟨seconds', nanos', _⟩ := e
  obtain rfl : seconds = seconds' := UInt64.toNat_inj.mp hseconds
  obtain rfl : nanos = nanos' := hnanos
  rfl

theorem eq_of_toNanos {d e : Duration} (h : d.toNanos = e.toNanos) : d = e := by
  refine eq_of_parts ?_ ?_
  · rw [d.parts_eq.1, e.parts_eq.1, h]
  · rw [d.parts_eq.2, e.parts_eq.2, h]

/-! ## Order -/

/-- Spans are compared by their seconds, and by their nanoseconds if these are equal. -/
instance : LinearOrder Duration :=
  LinearOrder.lift' (fun d => toLex (d.seconds.toNat, d.nanos)) fun _ _ h =>
    have hparts := Prod.ext_iff.mp (toLex.injective h)
    eq_of_parts hparts.1 hparts.2

/-- The order of spans by their parts. -/
theorem le_iff (d e : Duration) :
    d ≤ e ↔ d.seconds.toNat < e.seconds.toNat ∨
      d.seconds.toNat = e.seconds.toNat ∧ d.nanos ≤ e.nanos :=
  Prod.Lex.toLex_le_toLex

theorem toNanos_le_toNanos {d e : Duration} : d.toNanos ≤ e.toNanos ↔ d ≤ e := by
  have hd := d.nanos_lt
  have he := e.nanos_lt
  rw [le_iff, toNanos, toNanos]
  omega

/-! ## Scaling in words -/

/-- The span `factor` times over in words, unless one of them overflows. The whole seconds of the
nanoseconds' product are carried over to the product of the seconds. -/
def times? (d : Duration) (factor : UInt32) : Option Duration := do
  let nanos := UInt64.ofNat d.nanos * factor.toUInt64
  let whole ← product? d.seconds factor.toUInt64
  let seconds ← sum? whole (nanos / 1000000000)
  return ⟨seconds, nanos.toNat % 1000000000, Nat.mod_lt _ (by decide)⟩

section

variable (d : Duration) (factor : UInt32)

/-- The product of the nanoseconds does not overflow. -/
theorem toNat_nanos_mul :
    (UInt64.ofNat d.nanos * factor.toUInt64).toNat = d.nanos * factor.toNat := by
  have hnanos := d.nanos_lt
  have hfactor : factor.toNat < 4294967296 := factor.toNat_lt
  have hlt : d.nanos * factor.toNat < 1000000000 * 4294967296 := Nat.mul_lt_mul'' hnanos hfactor
  have hword : (UInt64.ofNat d.nanos).toNat = d.nanos :=
    UInt64.toNat_ofNat_of_lt' (Nat.lt_trans hnanos (by decide))
  rw [UInt64.toNat_mul, UInt32.toNat_toUInt64, hword]
  exact Nat.mod_eq_of_lt (Nat.lt_trans hlt (by decide))

/-- So the whole seconds of it are exact. -/
theorem toNat_carried :
    (UInt64.ofNat d.nanos * factor.toUInt64 / 1000000000).toNat =
      d.nanos * factor.toNat / 1000000000 := by
  rw [UInt64.toNat_div, toNat_nanos_mul]
  rfl

variable {d factor}

/-- The span that words give is the product. -/
theorem toNanos_of_times? {e : Duration} (h : d.times? factor = some e) :
    e.toNanos = d.toNanos * factor.toNat := by
  simp only [times?, Option.bind_eq_bind, Option.bind_eq_some_iff, Option.pure_def,
    Option.some_inj] at h
  obtain ⟨whole, hwhole, seconds, hseconds, rfl⟩ := h
  rw [product?_eq_some_iff, UInt32.toNat_toUInt64] at hwhole
  rw [sum?_eq_some_iff, toNat_carried] at hseconds
  rw [toNanos_mul, toNanos]
  dsimp only
  rw [toNat_nanos_mul]
  omega

/-- A span as long as the product is what words give. -/
theorem times?_of_toNanos {e : Duration} (h : e.toNanos = d.toNanos * factor.toNat) :
    d.times? factor = some e := by
  obtain ⟨heseconds, henanos⟩ := e.parts_eq
  have helt : e.seconds.toNat < UInt64.size := e.seconds.toNat_lt
  rw [h, toNanos_mul] at heseconds henanos
  -- The product of the seconds fits, because they are no more than those of the whole product.
  have hword : (UInt64.ofNat (d.seconds.toNat * factor.toNat)).toNat =
      d.seconds.toNat * factor.toNat := UInt64.toNat_ofNat_of_lt' (by omega)
  have hwhole : product? d.seconds factor.toUInt64 =
      some (UInt64.ofNat (d.seconds.toNat * factor.toNat)) := by
    rw [product?_eq_some_iff, UInt32.toNat_toUInt64, hword]
  have hseconds : sum? (UInt64.ofNat (d.seconds.toNat * factor.toNat))
      (UInt64.ofNat d.nanos * factor.toUInt64 / 1000000000) = some e.seconds := by
    rw [sum?_eq_some_iff, hword, toNat_carried]
    omega
  simp only [times?, hwhole, hseconds, Option.bind_eq_bind, Option.bind_some, Option.pure_def]
  refine congrArg some (eq_of_parts rfl ?_)
  dsimp only
  rw [toNat_nanos_mul]
  omega

/-- So words overflow exactly if the product is longer than any span. -/
theorem times?_eq_none_iff :
    d.times? factor = none ↔ longest.toNanos < d.toNanos * factor.toNat := by
  have hscale := d.toNanos_scale factor.toNat
  constructor
  · intro hnone
    by_contra hle
    have hsome : d.times? factor = some (d.scale factor.toNat) := times?_of_toNanos (by omega)
    rw [hnone] at hsome
    contradiction
  · intro hover
    rw [Option.eq_none_iff_forall_ne_some]
    intro e hsome
    have hexact := toNanos_of_times? hsome
    have hle := e.toNanos_le_longest
    omega

/-- A span is scaled in words, or else to the longest one. -/
theorem scale_eq_times? : d.scale factor.toNat = (d.times? factor).getD longest := by
  have hscale := d.toNanos_scale factor.toNat
  cases htimes : d.times? factor with
  | some e =>
    have hexact := toNanos_of_times? htimes
    have hle := e.toNanos_le_longest
    rw [Option.getD_some]
    exact eq_of_toNanos (by omega)
  | none =>
    have hover := times?_eq_none_iff.mp htimes
    rw [Option.getD_none]
    exact eq_of_toNanos (by omega)

end

end Duration
end PathSeal
