import Mathlib.Algebra.Group.Nat.Defs
import TokenAtlas.Json.Numeral

/-!
# The size of rounded numbers

A rounded quotient is not much greater than the quotient, so what is built from small numbers by
multiplications and divisions is finite.  Sizes are bounded by powers of two: `Below M x` says that
the absolute value of `x` is less than `2 ^ (M - 1022)`, in terms of the bits of `x`.

## Key results

- `below_ofRatio`: the size of a rounded quotient
- `Below.numerator_le`: the value of a number of bounded size
- `Json.Numeral.isFinite_of_value?`: what a numeral stands for is finite
-/

namespace TokenAtlas

namespace Binary64

/-- Whether the exponent bits of a number, with a carry from the fraction, stay below a bound. -/
def Below (M : Nat) (x : Binary64) : Prop := x.magnitude ≤ M * 2 ^ 52

theorem Below.isFinite {M : Nat} {x : Binary64} (h : x.Below M) (hM : M < 2047) :
    x.isFinite = true := by
  have hlt : M * 2 ^ 52 < infinityMagnitude := by
    simp only [infinityMagnitude, Nat.pow_eq]
    omega
  exact decide_eq_true (Nat.lt_of_le_of_lt h hlt)

theorem Below.mono {M N : Nat} {x : Binary64} (h : x.Below M) (hMN : M ≤ N) : x.Below N :=
  Nat.le_trans h (Nat.mul_le_mul_right _ hMN)

/-! ## Rounding -/

/-- The logarithm of a quotient is that of the numerator less that of the denominator, or one
    less. -/
theorem floorLog2_bounds (num den : Nat) :
    (num.log2 : Int) - den.log2 - 1 ≤ floorLog2 num den ∧
      floorLog2 num den ≤ (num.log2 : Int) - den.log2 := by
  simp only [floorLog2]
  split <;> omega

theorem roundQuotient_le (a b : Nat) : roundQuotient a b ≤ a / b + 1 := by
  unfold roundQuotient
  split
  · omega
  · split <;> omega

/-- The whole number that a quotient is rounded to before it is scaled has at most 54 bits. -/
private theorem roundQuotient_scaled_le {num den : Nat} {q : Int} (hden : den ≠ 0)
    (hq : (num.log2 : Int) - den.log2 - 53 ≤ q) :
    roundQuotient (num * 2 ^ (-q).toNat) (den * 2 ^ q.toNat) ≤ 2 ^ 54 := by
  have hnum : num < 2 ^ (num.log2 + 1) := Nat.lt_log2_self
  have hdenle : 2 ^ den.log2 ≤ den := Nat.log2_self_le hden
  -- Both sides of the quotient are compared with powers of two.
  have hexp : num.log2 + 1 + (-q).toNat ≤ 54 + (den.log2 + q.toNat) := by omega
  have hlt : num * 2 ^ (-q).toNat < 2 ^ 54 * (den * 2 ^ q.toNat) := by
    calc num * 2 ^ (-q).toNat
        < 2 ^ (num.log2 + 1) * 2 ^ (-q).toNat :=
          Nat.mul_lt_mul_of_pos_right hnum (Nat.two_pow_pos _)
      _ = 2 ^ (num.log2 + 1 + (-q).toNat) := (Nat.pow_add ..).symm
      _ ≤ 2 ^ (54 + (den.log2 + q.toNat)) := Nat.pow_le_pow_right (by decide) hexp
      _ = 2 ^ 54 * (2 ^ den.log2 * 2 ^ q.toNat) := by rw [Nat.pow_add, Nat.pow_add]
      _ ≤ 2 ^ 54 * (den * 2 ^ q.toNat) :=
          Nat.mul_le_mul_left _ (Nat.mul_le_mul_right _ hdenle)
  have hdiv := (Nat.div_lt_iff_lt_mul (Nat.mul_pos (Nat.pos_of_ne_zero hden)
    (Nat.two_pow_pos q.toNat))).2 hlt
  have hround := roundQuotient_le (num * 2 ^ (-q).toNat) (den * 2 ^ q.toNat)
  omega

/-- A quotient of at most `2 ^ K` is rounded to a magnitude that belongs to such a size. -/
theorem roundMagnitude_le_of_le {num den K : Nat} (hden : den ≠ 0) (h : num ≤ den * 2 ^ K) :
    roundMagnitude num den ≤ (K + 1026) * 2 ^ 52 := by
  rw [roundMagnitude]
  split
  · exact Nat.zero_le _
  · rename_i hnum
    simp only [Nat.pow_eq]
    -- The step between neighbours is small, since the quotient is.
    have hlog : num.log2 ≤ den.log2 + K := by
      have hlt : num < 2 ^ (den.log2 + 1 + K) :=
        calc num ≤ den * 2 ^ K := h
          _ < 2 ^ (den.log2 + 1) * 2 ^ K :=
              Nat.mul_lt_mul_of_pos_right Nat.lt_log2_self (Nat.two_pow_pos K)
          _ = 2 ^ (den.log2 + 1 + K) := (Nat.pow_add ..).symm
      have := (Nat.log2_lt hnum).2 hlt
      omega
    obtain ⟨hlow, hhigh⟩ := floorLog2_bounds num den
    generalize hq : max (floorLog2 num den - 52) (-1074) = q
    have hqlow : (num.log2 : Int) - den.log2 - 53 ≤ q := by omega
    have hqhigh : (q + 1074).toNat ≤ K + 1022 := by omega
    have hround := roundQuotient_scaled_le hden hqlow
    calc min infinityMagnitude ((q + 1074).toNat * 2 ^ 52 +
          roundQuotient (num * 2 ^ (-q).toNat) (den * 2 ^ q.toNat))
        ≤ (q + 1074).toNat * 2 ^ 52 +
          roundQuotient (num * 2 ^ (-q).toNat) (den * 2 ^ q.toNat) := Nat.min_le_right _ _
      _ ≤ (K + 1022) * 2 ^ 52 + 2 ^ 54 :=
          Nat.add_le_add (Nat.mul_le_mul_right _ hqhigh) hround
      _ = (K + 1026) * 2 ^ 52 := by omega

/-- A quotient of at most `2 ^ K` is rounded to a number of such a size. -/
theorem below_ofRatio (negative : Bool) {num den K : Nat} (hden : den ≠ 0)
    (h : num ≤ den * 2 ^ K) : (ofRatio negative num den).Below (K + 1026) := by
  have hlt : roundMagnitude num den < Nat.pow 2 63 :=
    Nat.lt_of_le_of_lt (roundMagnitude_le num den) (by decide)
  rw [Below, ofRatio, magnitude_ofMagnitude negative hlt]
  exact roundMagnitude_le_of_le hden h

theorem below_ofNat {n K : Nat} (h : n ≤ 2 ^ K) : (ofNat n).Below (K + 1026) :=
  below_ofRatio false Nat.one_ne_zero (by simpa using h)

/-! ## Values -/

theorem denominator_pos (x : Binary64) : 0 < x.denominator := Nat.two_pow_pos _

theorem significand_lt (x : Binary64) : x.significand < 2 ^ 53 := by
  simp only [significand, Nat.pow_eq]
  have : x.magnitude % 2 ^ 52 < 2 ^ 52 := Nat.mod_lt _ (by decide)
  split <;> omega

/-- A number of bounded size has a bounded value. -/
theorem Below.numerator_le {M : Nat} {x : Binary64} (h : x.Below M) :
    x.numerator ≤ 2 ^ (53 + (M - 1075)) := by
  have hexp : x.exponent.toNat ≤ M - 1075 := by
    have hdiv : x.magnitude / 2 ^ 52 ≤ M := Nat.div_le_of_le_mul (by rwa [Nat.mul_comm])
    simp only [exponent, Nat.pow_eq]
    split <;> omega
  calc x.numerator = x.significand * 2 ^ x.exponent.toNat := rfl
    _ ≤ 2 ^ 53 * 2 ^ (M - 1075) :=
        Nat.mul_le_mul (Nat.le_of_lt x.significand_lt) (Nat.pow_le_pow_right (by decide) hexp)
    _ = 2 ^ (53 + (M - 1075)) := (Nat.pow_add ..).symm

/-- A number of bounded size may be divided by a greater one, whose value is at least `2 ^ L`. -/
theorem Below.div {M L K : Nat} {x y : Binary64} (hx : x.Below M)
    (hy : y.denominator * 2 ^ L ≤ y.numerator) (hK : 53 + (M - 1075) ≤ K + L) :
    (x.div y).Below (K + 1026) := by
  -- The quotient of the numerators is below `2 ^ K`, and the denominator of `x` only makes it less.
  have hypos : 0 < y.numerator :=
    Nat.lt_of_lt_of_le (Nat.mul_pos y.denominator_pos (Nat.two_pow_pos L)) hy
  refine below_ofRatio _ (Nat.ne_of_gt (Nat.mul_pos x.denominator_pos hypos)) ?_
  have hnum : x.numerator ≤ 2 ^ (K + L) :=
    Nat.le_trans hx.numerator_le (Nat.pow_le_pow_right (by decide) hK)
  calc x.numerator * y.denominator
      ≤ 2 ^ (K + L) * y.denominator := Nat.mul_le_mul_right _ hnum
    _ = (y.denominator * 2 ^ L) * 2 ^ K := by rw [Nat.pow_add]; ac_rfl
    _ ≤ y.numerator * 2 ^ K := Nat.mul_le_mul_right _ hy
    _ ≤ x.denominator * y.numerator * 2 ^ K :=
        Nat.mul_le_mul_right _ (Nat.le_mul_of_pos_left _ x.denominator_pos)

end Binary64

/-! ## Numerals -/

namespace Json.Numeral

open Binary64

/-- The powers of ten by which numbers are scaled are at least one. -/
private theorem one_le_ofNat_pow : ∀ power ≤ 308,
    (Binary64.ofNat (Nat.pow 10 power)).denominator * 2 ^ 0 ≤
      (Binary64.ofNat (Nat.pow 10 power)).numerator := by
  decide +kernel

/-- The greatest of these powers takes every small number below one. -/
private theorem two_pow_le_ofNat_pow :
    (Binary64.ofNat (Nat.pow 10 308)).denominator * 2 ^ 1000 ≤
      (Binary64.ofNat (Nat.pow 10 308)).numerator := by
  decide +kernel

/-- A division by a power of ten leaves a small number small. -/
theorem below_scaleDown {x : Binary64} (hx : x.Below 1200) (power : Nat) :
    (scaleDown x power).Below 1204 := by
  -- The induction is on the steps, of which each but the last divides by the greatest power.
  induction power using Nat.strongRecOn generalizing x with
  | ind power ih =>
    rw [scaleDown]
    split
    · rename_i hpower
      exact hx.div (one_le_ofNat_pow power hpower) (by decide : 53 + (1200 - 1075) ≤ 178 + 0)
    · split
      · exact hx.mono (by decide)
      · rename_i hpower _
        have hstep : (x.div (.ofNat (Nat.pow 10 308))).Below (0 + 1026) :=
          hx.div two_pow_le_ofNat_pow (by decide)
        exact ih (power - 308) (by omega) (hstep.mono (by decide))

/-- A whole number of at most 64 bits times a power of ten is finite, if it is a number at all. -/
theorem isFinite_of_scale? {n : Nat} {power : Int} {x : Binary64} (hn : n < 2 ^ 64)
    (h : scale? n power = some x) : x.isFinite = true := by
  have hbelow : (Binary64.ofNat n).Below (64 + 1026) := below_ofNat (Nat.le_of_lt hn)
  simp only [scale?] at h
  split at h
  · -- a division, which makes the number smaller
    obtain rfl := Option.some.inj h
    exact (below_scaleDown (hbelow.mono (by decide)) _).isFinite (by decide)
  · split at h
    · -- a multiplication, whose result is looked at
      split at h
      · exact nomatch h
      · rename_i hinf
        obtain rfl := Option.some.inj h
        exact isFinite_ofRatio_of_not_isInfinite (Bool.eq_false_iff.2 hinf)
    · -- too great a power, which leaves only zero as it is
      split at h
      · obtain rfl := Option.some.inj h
        exact hbelow.isFinite (by decide)
      · exact nomatch h

/-- Digits are appended only as long as the number fits into 64 bits. -/
theorem accumulate_lt {n : Nat} (hn : n < 2 ^ 64) (ds : List Nat) :
    (accumulate n ds).1 < 2 ^ 64 := by
  induction ds generalizing n with
  | nil => exact hn
  | cons d ds ih =>
    rw [accumulate]
    split
    · rename_i hlt
      exact ih hlt
    · exact hn

/-- The same with an exponent, of which one beyond 32 bits leaves only zero. -/
private theorem isFinite_of_scaleBy? {n : Nat} {power : Int} {e : Bool × List Nat} {x : Binary64}
    (hn : n < 2 ^ 64)
    (h : (if ofDigits e.2 < Nat.pow 2 31 then
        scale? n (if e.1 then power - ofDigits e.2 else power + ofDigits e.2)
      else if n = 0 || e.1 then some .zero else none) = some x) : x.isFinite = true := by
  split at h
  · exact isFinite_of_scale? hn h
  · split at h
    · obtain rfl := Option.some.inj h
      decide
    · exact nomatch h

theorem isFinite_of_float? {m : Numeral} {x : Binary64} (h : m.float? = some x) :
    x.isFinite = true := by
  obtain ⟨negative, whole, places, exponent⟩ := m
  have hwhole : (accumulate 0 whole).1 < 2 ^ 64 := accumulate_lt (by decide) whole
  rw [float?] at h
  generalize accumulate 0 whole = p at hwhole h
  -- The decimal places are appended to the digits before the point.
  cases places with
  | none =>
    cases exponent with
    | none => exact isFinite_of_scale? hwhole h
    | some e => exact isFinite_of_scaleBy? hwhole h
  | some ds =>
    cases exponent with
    | none => exact isFinite_of_scale? (accumulate_lt hwhole ds) h
    | some e => exact isFinite_of_scaleBy? (accumulate_lt hwhole ds) h

/-- A floating-point number that a numeral stands for is finite. -/
theorem isFinite_of_value? {m : Numeral} {x : Binary64} (h : m.value? = some (.float x)) :
    x.isFinite = true := by
  simp only [value?] at h
  split at h
  · exact nomatch h
  · split at h
    · exact nomatch h
    · obtain ⟨y, hy, hx⟩ := Option.map_eq_some_iff.1 h
      obtain rfl := Number.float.inj hx
      have hfinite := isFinite_of_float? hy
      split
      · rw [isFinite_negate]
        exact hfinite
      · exact hfinite

end Json.Numeral

end TokenAtlas
