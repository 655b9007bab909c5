import Mathlib.Algebra.Order.Field.Power
import Mathlib.Data.Rat.Cast.Order
import Mathlib.Tactic.FieldSimp
import Mathlib.Tactic.Linarith
import Mathlib.Tactic.NormNum
import Mathlib.Tactic.Ring
import JobPool.Binary64.Basic

/-!
What rounding to binary64 does to a ratio. The magnitude that a ratio is rounded to is made of an exponent and a number
of steps of its size (`Rounds`). Up to the largest number nothing is rounded to infinity (`isFinite_roundRatio`), and
from one on the error is at most half of the last of 53 binary digits (`value_roundRatio_le`).
-/

namespace JobPool.Binary64

variable {num den : Nat} {t : ℚ} {e : Int} {q : Nat}

/-- The absolute value of a finite number. -/
def value (x : Binary64) : ℚ := x.ratio.1 / x.ratio.2

/-- The largest finite number. -/
def largest : ℚ := (2 ^ 53 - 1) * 2 ^ (971 : Int)

section powers

theorem powerRatio_pos {base : Nat} (positive : 0 < base) (n : Int) :
    0 < (powerRatio base n).1 ∧ 0 < (powerRatio base n).2 := by
  rw [powerRatio]
  split
  · exact ⟨Nat.pow_pos positive, Nat.one_pos⟩
  · exact ⟨Nat.one_pos, Nat.pow_pos positive⟩

theorem powerRatio_eq (base : Nat) (n : Int) :
    ((powerRatio base n).1 : ℚ) / (powerRatio base n).2 = (base : ℚ) ^ n := by
  rw [powerRatio]
  split
  · next up =>
    obtain ⟨m, rfl⟩ := Int.eq_ofNat_of_zero_le up
    simp
  · next down =>
    obtain ⟨m, rfl⟩ := Int.eq_negSucc_of_lt_zero (Int.not_le.mp down)
    simp [Int.neg_negSucc]

private theorem two_powerRatio_eq (n : Int) : ((powerRatio 2 n).1 : ℚ) / (powerRatio 2 n).2 = 2 ^ n := by
  rw [powerRatio_eq, Nat.cast_two]

theorem two_zpow_pos (e : Int) : (0 : ℚ) < 2 ^ e := zpow_pos (by norm_num) e

private theorem two_zpow_add (a b : Int) : (2 : ℚ) ^ (a + b) = 2 ^ a * 2 ^ b := zpow_add₀ (by norm_num) a b

private theorem two_zpow_le_iff {a b : Int} : (2 : ℚ) ^ a ≤ 2 ^ b ↔ a ≤ b := zpow_le_zpow_iff_right₀ (by norm_num)

private theorem two_zpow_lt_iff {a b : Int} : (2 : ℚ) ^ a < 2 ^ b ↔ a < b := zpow_lt_zpow_iff_right₀ (by norm_num)

private theorem log2_spec {n : Nat} (positive : 0 < n) :
    (2 : ℚ) ^ (n.log2 : Int) ≤ n ∧ (n : ℚ) < 2 ^ (n.log2 + 1 : Int) := by
  rw [zpow_natCast, ← Nat.cast_succ, zpow_natCast]
  exact ⟨by exact_mod_cast Nat.log2_self_le (Nat.ne_of_gt positive), by exact_mod_cast Nat.lt_log2_self⟩

/-- The binary logarithm of a ratio. -/
theorem floorLog2_spec (num_pos : 0 < num) (den_pos : 0 < den) :
    (2 : ℚ) ^ floorLog2 num den ≤ num / den ∧ (num / den : ℚ) < 2 ^ (floorLog2 num den + 1) := by
  obtain ⟨num_ge, num_lt⟩ := log2_spec num_pos
  obtain ⟨den_ge, den_lt⟩ := log2_spec den_pos
  have positive : (0 : ℚ) < den := Nat.cast_pos.mpr den_pos
  have low : (2 : ℚ) ^ ((num.log2 : Int) - den.log2 - 1) ≤ num / den := by
    rw [le_div_iff₀ positive]
    calc (2 : ℚ) ^ ((num.log2 : Int) - den.log2 - 1) * den
        ≤ 2 ^ ((num.log2 : Int) - den.log2 - 1) * 2 ^ (den.log2 + 1 : Int) :=
          mul_le_mul_of_nonneg_left den_lt.le (two_zpow_pos _).le
      _ = 2 ^ (num.log2 : Int) := by rw [← two_zpow_add]; congr 1; omega
      _ ≤ num := num_ge
  have high : (num / den : ℚ) < 2 ^ ((num.log2 : Int) - den.log2 + 1) := by
    rw [div_lt_iff₀ positive]
    calc (num : ℚ) < 2 ^ (num.log2 + 1 : Int) := num_lt
      _ = 2 ^ ((num.log2 : Int) - den.log2 + 1) * 2 ^ (den.log2 : Int) := by rw [← two_zpow_add]; congr 1; omega
      _ ≤ 2 ^ ((num.log2 : Int) - den.log2 + 1) * den := mul_le_mul_of_nonneg_left den_ge (two_zpow_pos _).le
  rw [floorLog2]
  generalize (num.log2 : Int) - den.log2 = k at low high
  obtain ⟨-, under⟩ := powerRatio_pos Nat.two_pos k
  have below : num * (powerRatio 2 k).2 < den * (powerRatio 2 k).1 ↔ (num / den : ℚ) < 2 ^ k := by
    rw [← two_powerRatio_eq, div_lt_div_iff₀ positive (Nat.cast_pos.mpr under)]
    norm_cast
    rw [Nat.mul_comm den]
  by_cases less : num * (powerRatio 2 k).2 < den * (powerRatio 2 k).1
  · rw [if_pos less, Int.sub_add_cancel]
    exact ⟨low, below.mp less⟩
  · rw [if_neg less]
    exact ⟨not_lt.mp (mt below.mpr less), high⟩

end powers

section steps

private theorem divNearestEven_le (num : Nat) (den_pos : 0 < den) :
    2 * (divNearestEven num den * den) ≤ 2 * num + den := by
  have split := Nat.div_add_mod num den
  have small := Nat.mod_lt num den_pos
  rw [divNearestEven]
  generalize num / den = q at split
  generalize num % den = r at split small
  rw [Nat.mul_comm] at split
  split_ifs <;> (try rw [Nat.add_mul]) <;> omega

private theorem divNearestEven_le_of_le {m : Nat} (den_pos : 0 < den) (most : num ≤ m * den) :
    divNearestEven num den ≤ m := by
  by_contra more
  have close := divNearestEven_le num den_pos
  have steps : (m + 1) * den ≤ divNearestEven num den * den := Nat.mul_le_mul_right den (by omega)
  rw [Nat.add_mul] at steps
  omega

private theorem le_divNearestEven {m : Nat} (den_pos : 0 < den) (least : m * den ≤ num) :
    m ≤ divNearestEven num den := by
  have floor : m ≤ num / den := (Nat.le_div_iff_mul_le den_pos).mpr least
  rw [divNearestEven]
  split_ifs <;> omega

/-- A positive number is rounded to `q` steps of `2 ^ e`. -/
structure Rounds (t : ℚ) (e : Int) (q : Nat) : Prop where
  least : -1074 ≤ e
  many : q ≤ 2 ^ 53
  normal : e = -1074 ∨ 2 ^ 52 ≤ q ∧ (2 : ℚ) ^ (e + 52) ≤ t
  near : (q : ℚ) * 2 ^ e ≤ t + 2 ^ e / 2
  below : ∀ m : Nat, t ≤ m * 2 ^ e → q ≤ m

/-- The magnitude of so many steps. -/
def ofSteps (e : Int) (q : Nat) : Nat := (e + 1074).toNat * fractionCount + q

private theorem exists_rounds (num_pos : 0 < num) (den_pos : 0 < den) :
    ∃ e q, Rounds (num / den) e q ∧ roundMagnitude num den = min (ofSteps e q) infinityMagnitude := by
  obtain ⟨low, high⟩ := floorLog2_spec num_pos den_pos
  rw [roundMagnitude, if_neg (Nat.ne_of_gt num_pos)]
  refine ⟨_, _, ?_, rfl⟩
  generalize floorLog2 num den = k at low high
  obtain ⟨e, chosen⟩ : ∃ e, e = max (-1074) (k - 52) := ⟨_, rfl⟩
  rw [← chosen]
  obtain ⟨above, under⟩ := powerRatio_pos Nat.two_pos e
  have power := two_powerRatio_eq e
  generalize powerRatio 2 e = p at above under power
  have den_pos' : 0 < den * p.1 := Nat.mul_pos den_pos above
  -- both sides of the division, in units of `den · p.2`
  have unit : (0 : ℚ) < den * p.2 := mul_pos (Nat.cast_pos.mpr den_pos) (Nat.cast_pos.mpr under)
  have size : ((den * p.1 : Nat) : ℚ) = 2 ^ e * (den * p.2) := by
    rw [div_eq_iff (Nat.cast_pos.mpr under).ne'] at power
    rw [Nat.cast_mul, power]
    ring
  have whole : ((num * p.2 : Nat) : ℚ) = num / den * (den * p.2) := by
    have : (den : ℚ) ≠ 0 := (Nat.cast_pos.mpr den_pos).ne'
    rw [Nat.cast_mul]
    field_simp
  have most {m : Nat} (le : (num / den : ℚ) ≤ m * 2 ^ e) : num * p.2 ≤ m * (den * p.1) := by
    have := mul_le_mul_of_nonneg_right le unit.le
    rw [← whole, mul_assoc, ← size] at this
    exact_mod_cast this
  refine ⟨by omega, divNearestEven_le_of_le den_pos' (most ?_), ?_, ?_, fun m le =>
    divNearestEven_le_of_le den_pos' (most le)⟩
  · refine high.le.trans ?_
    rw [show ((2 ^ 53 : Nat) : ℚ) = 2 ^ (53 : Int) by norm_num, ← two_zpow_add, two_zpow_le_iff]
    omega
  · by_cases least : e = -1074
    · exact .inl least
    · obtain rfl : k = e + 52 := by omega
      refine .inr ⟨le_divNearestEven den_pos' ?_, low⟩
      have := mul_le_mul_of_nonneg_right low unit.le
      rw [← whole, Int.add_comm, two_zpow_add, mul_assoc, ← size] at this
      exact_mod_cast this
  · have close := divNearestEven_le (num * p.2) den_pos'
    generalize divNearestEven (num * p.2) (den * p.1) = q at close
    refine le_of_mul_le_mul_right ?_ unit
    have close' : (2 : ℚ) * (q * ((den * p.1 : Nat) : ℚ)) ≤ 2 * ((num * p.2 : Nat) : ℚ) + ((den * p.1 : Nat) : ℚ) := by
      exact_mod_cast close
    rw [size, whole] at close'
    linarith

private theorem largest_lt_two : largest < 2 ^ (1024 : Int) := by
  rw [largest, show (1024 : Int) = 53 + 971 by rfl, two_zpow_add]
  exact mul_lt_mul_of_pos_right (by norm_num) (two_zpow_pos _)

theorem largest_lt_ten : largest < 10 ^ 309 := by
  have word : (2 : ℚ) ^ 128 ≤ 4 * 10 ^ 38 := by norm_num
  calc largest < 2 ^ (1024 : Int) := largest_lt_two
    _ = (2 ^ 128) ^ 8 := by rw [← pow_mul, ← zpow_natCast]; rfl
    _ ≤ (4 * 10 ^ 38) ^ 8 := pow_le_pow_left₀ (by norm_num) word 8
    _ = 4 ^ 8 * 10 ^ 304 := by rw [mul_pow, ← pow_mul]
    _ ≤ 10 ^ 5 * 10 ^ 304 := mul_le_mul_of_nonneg_right (by norm_num) (pow_nonneg (by norm_num) _)
    _ = 10 ^ 309 := by rw [← pow_add]

/-- Nothing up to the largest number is rounded to infinity. -/
theorem Rounds.lt_infinity (rounds : Rounds t e q) (fits : t ≤ largest) : ofSteps e q < infinityMagnitude := by
  have many := rounds.many
  rw [ofSteps, infinityMagnitude]
  rcases rounds.normal with rfl | ⟨-, power⟩
  · simp only [fractionCount]
    omega
  · have small : e < 972 := by
      have := two_zpow_lt_iff.mp ((power.trans fits).trans_lt largest_lt_two)
      omega
    by_cases last : e = 971
    · subst last
      have : q ≤ 2 ^ 53 - 1 := rounds.below _ (fits.trans_eq (by rw [largest]; norm_num))
      simp only [fractionCount]
      omega
    · simp only [fractionCount]
      omega

/-- From one on the error is at most half of the last of 53 digits. -/
theorem Rounds.le (rounds : Rounds t e q) (least : 1 ≤ t) : (q : ℚ) * 2 ^ e ≤ t + t / 2 ^ 53 := by
  have step : (2 : ℚ) ^ e * 2 ^ 52 ≤ t := by
    rw [show (2 : ℚ) ^ 52 = 2 ^ (52 : Int) by norm_num, ← two_zpow_add]
    rcases rounds.normal with rfl | ⟨-, power⟩
    · refine le_trans ?_ least
      rw [← zpow_zero (2 : ℚ), two_zpow_le_iff]
      omega
    · exact power
  have near := rounds.near
  have half : (2 : ℚ) ^ e / 2 ≤ t / 2 ^ 53 := by
    rw [div_le_div_iff₀ (by norm_num) (by norm_num)]
    linarith
  linarith

private theorem magnitude_ofMagnitude (negative : Bool) {m : Nat} (small : m < signBit) :
    (ofMagnitude negative m).magnitude = m := by
  rw [ofMagnitude, magnitude, UInt64.toNat_ofNat']
  simp only [signBit] at small ⊢
  cases negative <;> simp <;> omega

theorem ratio_pos (x : Binary64) : 0 < x.ratio.2 := (powerRatio_pos (by decide) _).2

private theorem value_of_subnormal {x : Binary64} (magnitude : x.magnitude = q) (small : q < fractionCount) :
    x.value = q * 2 ^ (-1074 : Int) := by
  have parts : x.parts = (q, -1074) := by
    rw [Binary64.parts, magnitude, Nat.div_eq_of_lt small, Nat.mod_eq_of_lt small, if_pos rfl]
  rw [value, ratio, parts]
  dsimp only
  rw [Nat.cast_mul, mul_div_assoc, two_powerRatio_eq]

private theorem value_of_normal {x : Binary64} {biased fraction : Nat}
    (magnitude : x.magnitude = (biased + 1) * fractionCount + fraction) (small : fraction < fractionCount) :
    x.value = ((fractionCount + fraction : Nat) : ℚ) * 2 ^ (biased - 1074 : Int) := by
  have positive : 0 < fractionCount := by decide
  have parts : x.parts = (fractionCount + fraction, (biased : Int) - 1074) := by
    rw [Binary64.parts, magnitude, Nat.mul_comm, Nat.mul_add_div positive, Nat.div_eq_of_lt small, Nat.mul_add_mod,
      Nat.mod_eq_of_lt small, if_neg (by omega)]
    congr 1
    simp only [Int.ofNat_eq_natCast]
    omega
  rw [value, ratio, parts]
  dsimp only
  rw [Nat.cast_mul, mul_div_assoc, two_powerRatio_eq]

private theorem Rounds.value_eq (rounds : Rounds t e q) (negative : Bool) (finite : ofSteps e q < infinityMagnitude) :
    (ofMagnitude negative (ofSteps e q)).value = q * 2 ^ e := by
  have magnitude := magnitude_ofMagnitude negative (Nat.lt_trans finite (by decide))
  have least := rounds.least
  have many := rounds.many
  obtain ⟨n, shifted⟩ : ∃ n : Nat, e + 1074 = n := Int.eq_ofNat_of_zero_le (by omega)
  obtain rfl : e = n - 1074 := by omega
  rw [ofSteps, shifted, Int.toNat_natCast] at magnitude ⊢
  rcases Nat.lt_or_ge q fractionCount with subnormal | normal
  · have lowest : n = 0 := by
      rcases rounds.normal with lowest | ⟨normal, -⟩
      · omega
      · exact absurd normal (Nat.not_le.mpr subnormal)
    subst lowest
    rw [Nat.zero_mul, Nat.zero_add] at magnitude ⊢
    exact value_of_subnormal magnitude subnormal
  · obtain ⟨fraction, rfl⟩ := Nat.exists_eq_add_of_le normal
    rw [← Nat.add_assoc, ← Nat.succ_mul] at magnitude ⊢
    by_cases small : fraction < fractionCount
    · exact value_of_normal magnitude small
    · -- so many steps are the first number of the next exponent
      obtain rfl : fraction = fractionCount := by
        simp only [fractionCount] at *
        omega
      rw [← Nat.succ_mul] at magnitude ⊢
      rw [value_of_normal (magnitude.trans (Nat.add_zero _).symm) (by decide),
        show ((n + 1 : Nat) - 1074 : Int) = n - 1074 + 1 by omega, two_zpow_add]
      push_cast
      ring

end steps

section operations

theorem value_largest : (ofMagnitude false (infinityMagnitude - 1)).value = largest := by
  have magnitude : (ofMagnitude false (infinityMagnitude - 1)).magnitude =
      (2045 + 1) * fractionCount + (fractionCount - 1) := magnitude_ofMagnitude false (by decide)
  rw [value_of_normal magnitude (by decide), largest]
  norm_num

/-- A ratio up to the largest number is rounded to a finite number. -/
theorem isFinite_roundRatio (negative : Bool) (den_pos : 0 < den) (fits : (num / den : ℚ) ≤ largest) :
    (roundRatio negative num den).isFinite = true := by
  have finite : roundMagnitude num den < infinityMagnitude := by
    rcases Nat.eq_zero_or_pos num with rfl | num_pos
    · rw [roundMagnitude, if_pos rfl]
      decide
    · obtain ⟨e, q, rounds, made⟩ := exists_rounds num_pos den_pos
      rw [made]
      exact Nat.lt_of_le_of_lt (Nat.min_le_left _ _) (rounds.lt_infinity fits)
  rw [isFinite, roundRatio, magnitude_ofMagnitude negative (Nat.lt_trans finite (by decide))]
  exact decide_eq_true finite

theorem value_roundRatio_le (negative : Bool) (den_pos : 0 < den) (least : (1 : ℚ) ≤ num / den)
    (fits : (num / den : ℚ) ≤ largest) :
    (roundRatio negative num den).value ≤ num / den + num / den / 2 ^ 53 := by
  have num_pos : 0 < num := by
    rcases Nat.eq_zero_or_pos num with rfl | positive
    · norm_num at least
    · exact positive
  obtain ⟨e, q, rounds, made⟩ := exists_rounds num_pos den_pos
  have finite := rounds.lt_infinity fits
  rw [roundRatio, made, Nat.min_eq_left finite.le, rounds.value_eq negative finite]
  exact rounds.le least

theorem value_roundRatio_zero (negative : Bool) : (roundRatio negative 0 den).value = 0 := by
  have magnitude : (roundRatio negative 0 den).magnitude = 0 := by
    rw [roundRatio, roundMagnitude, if_pos rfl]
    exact magnitude_ofMagnitude negative (by decide)
  rw [value_of_subnormal magnitude (by decide), Nat.cast_zero, zero_mul]

theorem isFinite_mul (x y : Binary64) (fits : x.value * y.value ≤ largest) : (x.mul y).isFinite = true := by
  refine isFinite_roundRatio _ (Nat.mul_pos x.ratio_pos y.ratio_pos) ?_
  rwa [Nat.cast_mul, Nat.cast_mul, mul_div_mul_comm]

end operations

end JobPool.Binary64
