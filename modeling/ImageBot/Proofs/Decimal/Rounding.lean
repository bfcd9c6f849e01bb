import ImageBot.Decimal.Binary64
import Mathlib.Algebra.Order.Field.Rat
import Mathlib.Algebra.Order.Field.Power
import Mathlib.Algebra.Group.Nat.Even
import Mathlib.Tactic.FieldSimp
import Mathlib.Tactic.Linarith
import Mathlib.Tactic.NormNum
import Mathlib.Tactic.Ring
/-!
# Rounding to whole numbers

A binary64 number that is finite denotes a rational number. The parts that the arithmetic works
with are ratios of natural numbers, and these are the same rational numbers, so what is computed
from them is what rounding to the nearest whole number, a tie going to the even one, gives.
-/
namespace ImageBot.Decimal

/-- A natural number nearest to `r`, the even one of two that are equally near. -/
structure IsNearest (r : ℚ) (n : ℕ) : Prop where
  near : |r - n| ≤ 1 / 2
  even : |r - n| = 1 / 2 → Even n

namespace IsNearest

variable {r r' : ℚ} {n n' : ℕ}

/-- What is greater is not rounded to less. -/
theorem le (h : IsNearest r n) (h' : IsNearest r' n') (hr : r ≤ r') : n ≤ n' := by
  by_contra hlt
  have hstep : (n' : ℚ) + 1 ≤ n := by exact_mod_cast Nat.lt_of_not_le hlt
  have hlow := (abs_le.mp h.near).1
  have hhigh := (abs_le.mp h'.near).2
  -- both are ties between the same two neighbours, of which only one is even
  have htie : |r - n| = 1 / 2 := by
    rw [abs_eq (by norm_num)]
    right
    linarith
  have htie' : |r' - n'| = 1 / 2 := by
    rw [abs_eq (by norm_num)]
    left
    linarith
  have hnext : n = n' + 1 := by
    have : (n : ℚ) = n' + 1 := by linarith
    exact_mod_cast this
  have heven := h.even htie
  rw [hnext, Nat.even_add_one] at heven
  exact heven (h'.even htie')

theorem unique (h : IsNearest r n) (h' : IsNearest r n') : n = n' :=
  Nat.le_antisymm (h.le h' le_rfl) (h'.le h le_rfl)

/-- A whole number is rounded to itself. -/
theorem natCast (n : ℕ) : IsNearest n n :=
  ⟨by norm_num, by norm_num⟩

/-- Nothing above one half is rounded to zero, and all else is. -/
theorem pos_iff (h : IsNearest r n) : 0 < n ↔ 1 / 2 < r := by
  constructor
  · intro hn
    by_contra hr
    have hzero : IsNearest (1 / 2) 0 := ⟨by norm_num, fun _ => Even.zero⟩
    exact absurd (h.le hzero (le_of_not_gt hr)) (Nat.not_le.mpr hn)
  · intro hr
    by_contra hn
    have hhigh := (abs_le.mp h.near).2
    rw [Nat.eq_zero_of_not_pos hn, Nat.cast_zero] at hhigh
    linarith

/-- Between two neighbours the fraction decides. -/
theorem of_lt_half {q : ℕ} {f : ℚ} (h : 0 ≤ f) (hf : f < 1 / 2) : IsNearest (q + f) q := by
  have habs : |(q : ℚ) + f - q| = f := by rw [add_sub_cancel_left, abs_of_nonneg h]
  exact ⟨habs.trans_le hf.le, fun htie => absurd (habs.symm.trans htie) hf.ne⟩

theorem of_half_lt {q : ℕ} {f : ℚ} (hf : 1 / 2 < f) (h : f < 1) : IsNearest (q + f) (q + 1) := by
  have habs : |(q : ℚ) + f - (q + 1 : ℕ)| = 1 - f := by
    rw [abs_of_nonpos (by push_cast; linarith)]
    push_cast
    ring
  exact ⟨by rw [habs]; linarith, fun htie => by rw [habs] at htie; linarith⟩

theorem of_half (q : ℕ) : IsNearest (q + 1 / 2) (q + q % 2) := by
  rcases Nat.even_or_odd q with hq | hq
  · rw [Nat.even_iff.mp hq]
    exact ⟨by norm_num, fun _ => hq⟩
  · rw [Nat.odd_iff.mp hq]
    refine ⟨?_, fun _ => hq.add_one⟩
    push_cast
    norm_num

end IsNearest

namespace Binary64

/-- The rounded quotient is nearest to the ratio. -/
theorem isNearest_roundDiv {den : ℕ} (hden : 0 < den) (num : ℕ) :
    IsNearest (num / den) (roundDiv num den) := by
  have hpos : (0 : ℚ) < den := by exact_mod_cast hden
  have hsplit : (num : ℚ) / den = (num / den : ℕ) + ((num % den : ℕ) : ℚ) / den := by
    rw [eq_comm, ← eq_sub_iff_add_eq', div_eq_iff hpos.ne', sub_mul, div_mul_cancel₀ _ hpos.ne']
    have hmod : (den * (num / den) + num % den : ℕ) = (num : ℚ) := by rw [Nat.div_add_mod]
    push_cast at hmod
    linarith
  have hless : ((num % den : ℕ) : ℚ) / den < 1 := by
    rw [div_lt_one₀ hpos]
    exact_mod_cast Nat.mod_lt num hden
  rw [roundDiv, hsplit]
  split
  · next hlt =>
    refine .of_lt_half (div_nonneg (Nat.cast_nonneg _) hpos.le) ?_
    rw [div_lt_div_iff₀ hpos two_pos]
    exact_mod_cast (by omega : num % den * 2 < 1 * den)
  split
  · next heq =>
    have hhalf : ((num % den : ℕ) : ℚ) / den = 1 / 2 := by
      rw [div_eq_div_iff hpos.ne' two_ne_zero]
      exact_mod_cast (by omega : num % den * 2 = 1 * den)
    rw [hhalf]
    exact .of_half _
  · next hlt heq =>
    refine .of_half_lt ?_ hless
    rw [div_lt_div_iff₀ two_pos hpos]
    exact_mod_cast (by omega : 1 * den < num % den * 2)

end Binary64

theorem exists_isNearest {r : ℚ} (h : 0 ≤ r) : ∃ n, IsNearest r n := by
  obtain ⟨num, hnum⟩ := Int.eq_ofNat_of_zero_le (Rat.num_nonneg.mpr h)
  have hratio : r = num / r.den := by
    conv_lhs => rw [← Rat.num_div_den r, hnum]
    rfl
  rw [hratio]
  exact ⟨_, Binary64.isNearest_roundDiv r.den_pos num⟩

namespace Binary64

/-- The rational number that is denoted, if any is. -/
def rational? (x : Binary64) : Option ℚ :=
  match x.value with
  | .finite negative m q => some ((if negative then -1 else 1) * (m * 2 ^ q))
  | _ => none

/-- A number taken apart is a ratio of natural numbers. -/
theorem scaled_eq (m : ℕ) (q : ℤ) (k : ℕ) : 0 < (scaled m q k).2 ∧
    ((scaled m q k).1 : ℚ) / (scaled m q k).2 = m * 2 ^ q * k := by
  rw [scaled]
  split
  · next hq =>
    refine ⟨one_pos, ?_⟩
    obtain ⟨e, rfl⟩ := Int.eq_ofNat_of_zero_le hq
    simp
  · next hq =>
    refine ⟨Nat.two_pow_pos _, ?_⟩
    obtain ⟨e, he⟩ := Int.eq_ofNat_of_zero_le (show 0 ≤ -q by omega)
    obtain rfl : q = -(e : ℤ) := by omega
    simp [div_eq_mul_inv]
    ring

/-- The positive numbers but infinity. -/
theorem isFinite_and_isPositive_iff {x : Binary64} :
    x.isFinite ∧ x.isPositive ↔ ∃ r, x.rational? = some r ∧ 0 < r := by
  rw [isFinite, isPositive, rational?]
  cases x.value with
  | nan => simp
  | infinite negative => simp
  | finite negative m q =>
    have hpow : (0 : ℚ) < 2 ^ q := by positivity
    cases negative with
    | true => simpa using mul_nonneg (Nat.cast_nonneg m) hpow.le
    | false => simp [hpow, Nat.pos_iff_ne_zero]

end Binary64

end ImageBot.Decimal
