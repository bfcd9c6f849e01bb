import ImageBot.Proofs.Decimal.Rounding
import Mathlib.Data.Rat.Floor
/-!
# Whole numbers among the binary64 numbers

The whole part that is computed from the parts of a number is that of the rational number it
denotes. A natural number of up to 53 bits is its own nearest binary64 number. Numbers are in the
order of what they denote, with the infinities at both ends; what is no number has no place in it.
-/
namespace ImageBot.Decimal.Binary64

/-- The whole part is the one of the rational number. -/
theorem natCast_floor (m : ℕ) (q : ℤ) : (floor m q : ℤ) = ⌊(m * 2 ^ q : ℚ)⌋ := by
  have hratio := (scaled_eq m q 1).2
  rw [Nat.cast_one, mul_one] at hratio
  rw [← hratio, Rat.floor_natCast_div_natCast]
  rfl

/-- The order of the numbers. -/
inductive AtMost (x y : Binary64) : Prop
  | finite {a b : ℚ} (hx : x.rational? = some a) (hy : y.rational? = some b) (hle : a ≤ b)
  | bottom (hx : x.value = .infinite true) (hy : y.value ≠ .nan)
  | top (hx : x.value ≠ .nan) (hy : y.value = .infinite false)

/-- The fields of a normal number are found in its bits. -/
theorem value_signed {e f : ℕ} (negative : Bool) (hpos : 0 < e) (he : e < 2047) (hf : f < 2 ^ 52) :
    (signed negative (e * 2 ^ 52 + f)).value = .finite negative (2 ^ 52 + f) (e - 1075) := by
  have hbit : negative.toNat ≤ 1 := negative.toNat_le
  have hbits : (signed negative (e * 2 ^ 52 + f)).bits.toNat =
      negative.toNat * 2 ^ 63 + (e * 2 ^ 52 + f) := by
    have hsign : (if negative then 2 ^ 63 else 0) = negative.toNat * 2 ^ 63 := by
      cases negative <;> rfl
    rw [signed, hsign, UInt64.toNat_ofNat', Nat.mod_eq_of_lt (by omega)]
  have hsign : (negative.toNat * 2 ^ 63 + (e * 2 ^ 52 + f)) / 2 ^ 63 % 2 = negative.toNat := by
    omega
  have hexponent : (negative.toNat * 2 ^ 63 + (e * 2 ^ 52 + f)) / 2 ^ 52 % 2 ^ 11 = e := by
    omega
  have hfraction : (negative.toNat * 2 ^ 63 + (e * 2 ^ 52 + f)) % 2 ^ 52 = f := by
    omega
  simp only [value, hbits, hsign, hexponent, hfraction]
  rw [if_neg (by omega), if_neg (by omega)]
  cases negative <;> rfl

theorem roundDiv_one (n : ℕ) : roundDiv n 1 = n := by
  simp [roundDiv, Nat.mod_one]

/-- Dividing by a power of two with a negative exponent multiplies by the power. -/
theorem unscaled_neg (n k : ℕ) : unscaled n 1 (-k) = (n * 2 ^ k, 1) := by
  cases k with
  | zero => simp [unscaled]
  | succ k =>
    rw [unscaled, if_neg (by omega), neg_neg, Int.toNat_natCast]
    rfl

/-- Shifted to the left, a natural number has just 53 bits. -/
theorem mul_two_pow_bounds {n : ℕ} (hn : n ≠ 0) (h : n < 2 ^ 53) :
    2 ^ 52 ≤ n * 2 ^ (52 - n.log2) ∧ n * 2 ^ (52 - n.log2) < 2 ^ 53 := by
  have hlog : n.log2 < 53 := (Nat.log2_lt hn).mpr h
  have hlow := Nat.mul_le_mul_right (2 ^ (52 - n.log2)) (Nat.log2_self_le hn)
  have hhigh := Nat.mul_lt_mul_of_pos_right (@Nat.lt_log2_self n) (Nat.two_pow_pos (52 - n.log2))
  rw [← Nat.pow_add] at hlow hhigh
  have hleft : n.log2 + (52 - n.log2) = 52 := by omega
  have hright : n.log2 + 1 + (52 - n.log2) = 53 := by omega
  rw [hleft] at hlow
  rw [hright] at hhigh
  exact ⟨hlow, hhigh⟩

/-- At this exponent a natural number has a significand of just 53 bits. -/
theorem exponentFor_one {n : ℕ} (hn : n ≠ 0) (h : n < 2 ^ 53) :
    exponentFor n 1 = -((52 - n.log2 : ℕ) : ℤ) := by
  have hlog : n.log2 < 53 := (Nat.log2_lt hn).mpr h
  have hone : Nat.log2 1 = 0 := by decide
  have hfirst : max ((n.log2 : ℤ) - (Nat.log2 1 : ℕ) - 53) (-1074) = -((53 - n.log2 : ℕ) : ℤ) := by
    omega
  have hshift : n * 2 ^ (53 - n.log2) = n * 2 ^ (52 - n.log2) * 2 := by
    rw [show 53 - n.log2 = 52 - n.log2 + 1 by omega, Nat.pow_succ, Nat.mul_assoc]
  have hbounds := mul_two_pow_bounds hn h
  rw [exponentFor, hfirst, unscaled_neg]
  simp only [Nat.div_one]
  rw [if_pos (by omega)]
  omega

/-- Natural numbers of up to 53 bits need no rounding. -/
theorem rational?_ofNat {n : ℕ} (h : n < 2 ^ 53) : (ofNat n).rational? = some (n : ℚ) := by
  by_cases hn : n = 0
  · subst hn
    decide +kernel
  · have hlog : n.log2 < 53 := (Nat.log2_lt hn).mpr h
    obtain ⟨hlow, hhigh⟩ := mul_two_pow_bounds hn h
    have hmagnitude : (-((52 - n.log2 : ℕ) : ℤ) + 1074).toNat * 2 ^ 52 + n * 2 ^ (52 - n.log2) =
        (n.log2 + 1023) * 2 ^ 52 + (n * 2 ^ (52 - n.log2) - 2 ^ 52) := by
      omega
    have hnearest : ofNat n =
        signed false ((n.log2 + 1023) * 2 ^ 52 + (n * 2 ^ (52 - n.log2) - 2 ^ 52)) := by
      rw [ofNat, nearest, if_neg hn]
      simp only [exponentFor_one hn h, unscaled_neg, roundDiv_one, hmagnitude]
      rw [if_pos (by omega)]
    have hvalue := value_signed false (e := n.log2 + 1023) (by omega) (by omega)
      (show n * 2 ^ (52 - n.log2) - 2 ^ 52 < 2 ^ 52 by omega)
    have hexact : ((2 ^ 52 + (n * 2 ^ (52 - n.log2) - 2 ^ 52) : ℕ) : ℚ) =
        n * 2 ^ (52 - n.log2) := by
      rw [Nat.add_sub_cancel' hlow]
      push_cast
      rfl
    have hpower : ((n.log2 + 1023 : ℕ) : ℤ) - 1075 = -((52 - n.log2 : ℕ) : ℤ) := by omega
    rw [rational?, hnearest, hvalue]
    simp only [Bool.false_eq_true, if_false, one_mul, Option.some.injEq]
    rw [hexact, hpower, zpow_neg, zpow_natCast, mul_inv_cancel_right₀ (by positivity)]

end ImageBot.Decimal.Binary64
