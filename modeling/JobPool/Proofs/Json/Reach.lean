import Mathlib.Tactic.Positivity
import JobPool.Proofs.Binary64.Rounding
import JobPool.Proofs.Json.Numerals

/-!
Which numerals stay finite when they are read. The significand and its power never exceed what the numeral stands for
(`significand_le`), and they are rounded three times; so every numeral that leaves room for this is in reach
(`inReach_of_moderate`).
-/

namespace JobPool.Json

open Binary64 (largest value)

section digits

/-- The number that digits make, after a number before them. -/
def amount (n : Nat) (ds : List Nat) : Nat := ds.foldl (fun n digit => n * 10 + digit) n

private theorem mul_le_amount (n : Nat) (ds : List Nat) : n * 10 ^ ds.length ≤ amount n ds := by
  induction ds generalizing n with
  | nil => exact (Nat.mul_one n).le
  | cons d ds ih =>
    calc n * 10 ^ (ds.length + 1) = n * 10 * 10 ^ ds.length := by rw [Nat.pow_succ]; ring
      _ ≤ (n * 10 + d) * 10 ^ ds.length := Nat.mul_le_mul_right _ (Nat.le_add_right _ _)
      _ ≤ amount (n * 10 + d) ds := ih _

private theorem amount_append (n : Nat) (front ds : List Nat) : amount n (front ++ ds) = amount (amount n front) ds :=
  List.foldl_append

/-- Digits are absorbed from the front, until one more would be too much. -/
theorem exists_absorbed (limit n : Nat) (ds : List Nat) : ∃ taken, ds = taken ++ (absorb limit n ds).2 ∧
    (absorb limit n ds).1 = amount n taken ∧ (taken ≠ [] → (absorb limit n ds).1 < limit) ∧
    ∀ d more, (absorb limit n ds).2 = d :: more → limit ≤ (absorb limit n ds).1 * 10 + d := by
  induction ds generalizing n with
  | nil => exact ⟨[], rfl, rfl, fun some => absurd rfl some, nofun⟩
  | cons d ds ih =>
    rw [absorb]
    by_cases room : n * 10 + d < limit
    · rw [if_pos room]
      obtain ⟨taken, split, made, bound, stopped⟩ := ih (n * 10 + d)
      refine ⟨d :: taken, by rw [List.cons_append, ← split], made, fun _ => ?_, stopped⟩
      cases taken with
      | nil => exact made.trans_lt room
      | cons => exact bound (List.cons_ne_nil _ _)
    · rw [if_neg room]
      refine ⟨[], rfl, rfl, fun some => absurd rfl some, fun _ _ same => ?_⟩
      obtain ⟨rfl, -⟩ := List.cons.inj same
      exact Nat.not_lt.mp room

/-- If whole digits are left over already, at most one digit of the fraction is absorbed, and it is less than the first
of those: digits that are absorbed and then scaled never exceed all digits. -/
theorem absorbed_le {limit n : Nat} {left taken dropped : List Nat}
    (stopped : ∀ d more, left = d :: more → limit ≤ n * 10 + d) (bound : taken ≠ [] → amount n taken < limit) :
    amount n taken * 10 ^ (left.length + dropped.length) ≤ amount (amount n left) (taken ++ dropped) := by
  cases left with
  | nil =>
    rw [List.length_nil, Nat.zero_add, amount_append]
    exact mul_le_amount _ _
  | cons d more =>
    have first : (n * 10 + d) * 10 ^ more.length ≤ amount n (d :: more) := mul_le_amount _ _
    refine le_trans ?_ (mul_le_amount _ _)
    rw [List.length_append, List.length_cons]
    cases taken with
    | nil =>
      rw [List.length_nil, Nat.zero_add, Nat.pow_add, ← Nat.mul_assoc]
      exact Nat.mul_le_mul_right _ (mul_le_amount n (d :: more))
    | cons t taken =>
      have less := (bound (List.cons_ne_nil _ _)).le.trans (stopped d more rfl)
      calc amount n (t :: taken) * 10 ^ (more.length + 1 + dropped.length)
          ≤ (n * 10 + d) * 10 ^ (more.length + ((t :: taken).length + dropped.length)) := by
            refine Nat.mul_le_mul less (Nat.pow_le_pow_right (by decide) ?_)
            rw [List.length_cons]
            omega
        _ = (n * 10 + d) * 10 ^ more.length * 10 ^ ((t :: taken).length + dropped.length) := by
            rw [Nat.pow_add, Nat.mul_assoc]
        _ ≤ amount n (d :: more) * 10 ^ ((t :: taken).length + dropped.length) := Nat.mul_le_mul_right _ first

end digits

section significand

variable (n : Numeral)

/-- The digits after the point. -/
def Numeral.decimals : List Nat :=
  match n.fraction with
  | none => []
  | some digits => digits.values

/-- The power of ten that the exponent gives. -/
def Numeral.shift : Int :=
  match n.exponent with
  | none => 0
  | some e => if e.sign = .minus then -(e.digits.value : Int) else e.digits.value

private theorem Numeral.power_eq : n.power = n.shift - n.decimals.length := by
  rw [power, shift, decimals]
  cases n.fraction <;> rfl

private theorem Numeral.magnitude_eq :
    (n.magnitude.1 : ℚ) / n.magnitude.2 = amount 0 (n.whole.values ++ n.decimals) * 10 ^ n.power := by
  have power := Binary64.powerRatio_eq 10 n.power
  rw [magnitude]
  dsimp only
  rw [Nat.cast_mul, mul_div_assoc, power]
  rfl

/-- The digits that are kept, with as many zeros as digits are missing, are at most all digits. -/
theorem exists_significand : ∃ missing : Nat, n.significand.2 = missing - n.decimals.length ∧
    n.significand.1 * 10 ^ missing ≤ amount 0 (n.whole.values ++ n.decimals) ∧ n.significand.1 < UInt64.size := by
  obtain ⟨front, split, kept, bound, stopped⟩ := exists_absorbed UInt64.size 0 n.whole.values
  rw [Numeral.significand, Numeral.decimals, amount_append]
  generalize absorb UInt64.size 0 n.whole.values = absorbed at split kept bound stopped
  obtain ⟨held, left⟩ := absorbed
  dsimp only at split kept bound stopped ⊢
  have whole : amount 0 n.whole.values = amount held left := by rw [split, amount_append, ← kept]
  have small : held < UInt64.size := by
    by_cases none : front = []
    · rw [kept, none]
      decide
    · exact bound none
  rw [whole]
  cases n.fraction with
  | none => exact ⟨left.length, by simp, mul_le_amount _ _, small⟩
  | some digits =>
    obtain ⟨taken, split, made, bound, -⟩ := exists_absorbed UInt64.size held digits.values
    dsimp only
    generalize absorb UInt64.size held digits.values = absorbed at split made bound
    obtain ⟨more, dropped⟩ := absorbed
    dsimp only at split made bound ⊢
    subst made
    refine ⟨left.length + dropped.length, ?_, ?_, ?_⟩
    · rw [split, List.length_append]
      omega
    · rw [split]
      exact absorbed_le stopped bound
    · by_cases none : taken = []
      · rw [none]
        exact small
      · exact bound none

end significand

section reach

private theorem value_ofNat_le {n : Nat} (positive : 0 < n) (fits : (n : ℚ) ≤ largest) :
    (Binary64.roundRatio false n 1).value ≤ n + n / 2 ^ 53 := by
  have rounded := @Binary64.value_roundRatio_le n 1 false Nat.one_pos
  rw [Nat.cast_one, div_one] at rounded
  exact rounded (by exact_mod_cast positive) fits

private theorem isSome_scale_of_neg {n : Nat} {power : Int} (down : power < 0) : (scale n power).isSome = true := by
  rw [scale, if_pos down]
  rfl

private theorem isSome_scale_of_finite {n k : Nat} (bounded : k ≤ 308)
    (finite : ((Binary64.roundRatio false n 1).mul (Binary64.powerOfTen k)).isFinite = true) :
    (scale n k).isSome = true := by
  rw [scale, if_neg (by omega), if_neg (by omega)]
  exact congrArg Option.isSome (if_pos finite)

private theorem isSome_scale_zero (power : Int) : (scale 0 power).isSome = true := by
  by_cases down : power < 0
  · exact isSome_scale_of_neg down
  obtain ⟨k, rfl⟩ := Int.eq_ofNat_of_zero_le (Int.not_lt.mp down)
  by_cases bounded : k ≤ 308
  · refine isSome_scale_of_finite bounded (Binary64.isFinite_mul _ _ ?_)
    rw [Binary64.value_roundRatio_zero, zero_mul, largest]
    exact mul_nonneg (by norm_num) (Binary64.two_zpow_pos _).le
  · rw [scale, if_neg down, if_pos (by omega), if_pos rfl]
    rfl

/-- The product is rounded once after both factors were: that is at most `2⁻⁵³` of each of three numbers. -/
theorem isSome_scale {n : Nat} {power : Int} (small : n < UInt64.size)
    (fits : (n : ℚ) * 10 ^ power * (1 + 1 / 2 ^ 51) ≤ largest) : (scale n power).isSome = true := by
  rcases Nat.eq_zero_or_pos n with rfl | positive
  · exact isSome_scale_zero power
  by_cases down : power < 0
  · exact isSome_scale_of_neg down
  obtain ⟨k, rfl⟩ := Int.eq_ofNat_of_zero_le (Int.not_lt.mp down)
  rw [zpow_natCast] at fits
  have least : (1 : ℚ) ≤ n := by exact_mod_cast positive
  have power_least : (1 : ℚ) ≤ 10 ^ k := one_le_pow₀ (by norm_num)
  have product : (n : ℚ) * 10 ^ k ≤ largest := by
    refine le_trans ?_ fits
    exact le_mul_of_one_le_right (by positivity) (by norm_num)
  have power_fits : (10 : ℚ) ^ k ≤ largest := le_trans (le_mul_of_one_le_left (by positivity) least) product
  have bounded : k ≤ 308 := by
    by_contra more
    have : (10 : ℚ) ^ 309 ≤ 10 ^ k := pow_le_pow_right₀ (by norm_num) (Nat.not_le.mp more)
    exact not_lt.mpr (this.trans power_fits) Binary64.largest_lt_ten
  have number_fits : (n : ℚ) ≤ largest := le_trans (le_mul_of_one_le_right (by positivity) power_least) product
  refine isSome_scale_of_finite bounded (Binary64.isFinite_mul _ _ (le_trans ?_ fits))
  have number := value_ofNat_le positive number_fits
  have power : (Binary64.powerOfTen k).value ≤ 10 ^ k + 10 ^ k / 2 ^ 53 := by
    have rounded := value_ofNat_le (n := 10 ^ k) (Nat.pow_pos (by decide)) (by exact_mod_cast power_fits)
    exact_mod_cast rounded
  calc (Binary64.roundRatio false n 1).value * (Binary64.powerOfTen k).value
      ≤ (n + n / 2 ^ 53) * (10 ^ k + 10 ^ k / 2 ^ 53) := by
        refine mul_le_mul number power ?_ (by positivity)
        exact div_nonneg (Nat.cast_nonneg _) (Nat.cast_nonneg _)
    _ = n * 10 ^ k * ((1 + 1 / 2 ^ 53) * (1 + 1 / 2 ^ 53)) := by ring
    _ ≤ n * 10 ^ k * (1 + 1 / 2 ^ 51) := mul_le_mul_of_nonneg_left (by norm_num) (by positivity)

private theorem magnitude_le_of_moderate {n : Numeral} (moderate : n.Moderate) :
    (n.magnitude.1 / n.magnitude.2 : ℚ) * (1 + 1 / 2 ^ 51) ≤ largest := by
  have under : (0 : ℚ) < n.magnitude.2 := Nat.cast_pos.mpr (Binary64.powerRatio_pos (by decide) _).2
  have room := moderate.2
  rw [← Binary64.value_largest, value]
  have under' : (0 : ℚ) < (Binary64.ofMagnitude false (Binary64.infinityMagnitude - 1)).ratio.2 :=
    Nat.cast_pos.mpr (Binary64.ratio_pos _)
  generalize (Binary64.ofMagnitude false (Binary64.infinityMagnitude - 1)).ratio = most at room under'
  rw [show (1 + 1 / 2 ^ 51 : ℚ) = (2251799813685248 + 1) / 2251799813685248 by norm_num, div_mul_div_comm,
    div_le_div_iff₀ (by positivity) under']
  have room' : (n.magnitude.1 : ℚ) * most.2 * (2251799813685248 + 1) ≤ most.1 * n.magnitude.2 * 2251799813685248 := by
    exact_mod_cast room
  linarith

/-- What is scaled is at most what the numeral stands for. -/
theorem significand_le (n : Numeral) :
    (n.significand.1 : ℚ) * 10 ^ (n.significand.2 + n.shift) ≤ n.magnitude.1 / n.magnitude.2 := by
  obtain ⟨missing, power, most, -⟩ := exists_significand n
  rw [n.magnitude_eq, show n.significand.2 + n.shift = missing + n.power by rw [power, n.power_eq]; ring,
    zpow_add₀ (by norm_num), zpow_natCast, ← mul_assoc]
  refine mul_le_mul_of_nonneg_right ?_ (zpow_pos (by norm_num) _).le
  exact_mod_cast most

/-- A numeral that leaves a part in `2 ^ 51` of room below the largest number is in reach. -/
theorem Numeral.inReach_of_moderate {n : Numeral} (moderate : n.Moderate) : n.InReach := by
  rw [InReach, number?]
  by_cases exact : n.isWhole = true ∧ n.whole.value < UInt64.size
  · rw [if_pos exact]
    rfl
  rw [if_neg exact, Option.isSome_map]
  obtain ⟨-, -, -, small⟩ := exists_significand n
  have fits : (n.significand.1 : ℚ) * 10 ^ (n.significand.2 + n.shift) * (1 + 1 / 2 ^ 51) ≤ largest :=
    le_trans (mul_le_mul_of_nonneg_right (significand_le n) (by norm_num)) (magnitude_le_of_moderate moderate)
  rw [shift] at fits
  cases written : n.exponent with
  | none =>
    rw [written, Int.add_zero] at fits
    exact isSome_scale small fits
  | some e =>
    rw [written] at fits
    rw [raise]
    rcases Nat.lt_or_ge e.digits.value exponentLimit with near | far
    · rw [e.digits.absorb_of_value_lt exponentLimit near]
      refine isSome_scale small ?_
      by_cases down : e.sign = .minus
      · simpa only [down, if_true, Int.sub_eq_add_neg] using fits
      · simpa only [down, if_false] using fits
    · have down : e.sign = .minus := (moderate.1 e written).resolve_right (Nat.not_lt.mpr far)
      have stopped := mt (e.digits.value_lt_iff exponentLimit (by decide)).mpr (Nat.not_lt.mpr far)
      generalize absorb exponentLimit 0 e.digits.values = absorbed at stopped
      obtain ⟨m, _ | ⟨d, more⟩⟩ := absorbed
      · exact absurd rfl stopped
      · simp [down]

end reach

end JobPool.Json
