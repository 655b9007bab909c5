/-!
Binary64 numbers as bit patterns: sign, magnitude, the total order on patterns, numeric comparison,
and correct rounding of exact ratios. Everything is computed on integers, so each operation is a
function that proofs can follow.
-/

namespace JobPool

/-- A binary64 number, given by its bit pattern. -/
structure Binary64 where
  bits : UInt64
  deriving DecidableEq, Repr

namespace Binary64

/-- The sign bit as a number, `2 ^ 63`. -/
abbrev signBit : Nat := 9223372036854775808

/-- The number of fractions, `2 ^ 52`. -/
abbrev fractionCount : Nat := 4503599627370496

/-- The pattern without its sign bit. -/
def magnitude (x : Binary64) : Nat := x.bits.toNat % signBit

/-- The sign bit. -/
def negative (x : Binary64) : Bool := signBit ≤ x.bits.toNat

/-- The magnitude of infinity; larger ones are not numbers. -/
def infinityMagnitude : Nat := 2047 * fractionCount

/-- The number with this sign and magnitude. -/
def ofMagnitude (negative : Bool) (magnitude : Nat) : Binary64 :=
  ⟨UInt64.ofNat ((if negative then signBit else 0) + magnitude)⟩

/-- Infinity with a sign. -/
def infinity (negative : Bool) : Binary64 := ofMagnitude negative infinityMagnitude

/-- Zero with a sign. -/
def zero (negative : Bool) : Binary64 := ofMagnitude negative 0

/-- The quiet not-a-number with a sign. -/
def nan (negative : Bool) : Binary64 := ofMagnitude negative (infinityMagnitude + fractionCount / 2)

/-- The pattern stands for no number. -/
def isNaN (x : Binary64) : Bool := infinityMagnitude < x.magnitude

/-- The pattern stands for a real number. -/
def isFinite (x : Binary64) : Bool := x.magnitude < infinityMagnitude

/-- The place of a pattern in the total order: negative patterns below positive ones, the larger
magnitude further out. -/
def totalKey (x : Binary64) : Int :=
  if x.negative then -1 - (x.magnitude : Int) else x.magnitude

/-- The place of a number in the numeric order; the two zeros share one place. -/
def numericKey (x : Binary64) : Int :=
  if x.negative then -(x.magnitude : Int) else x.magnitude

/-- Numeric equality, false when a side is not a number. -/
def sameNumber (x y : Binary64) : Bool :=
  !x.isNaN && !y.isNaN && decide (x.numericKey = y.numericKey)

/-- Numeric "at most", false when a side is not a number. -/
def atMost (x y : Binary64) : Bool :=
  !x.isNaN && !y.isNaN && decide (x.numericKey ≤ y.numericKey)

/-- A finite magnitude is `significand · 2 ^ exponent`; this is the pair. -/
def parts (x : Binary64) : Nat × Int :=
  let biased : Nat := x.magnitude / fractionCount
  let fraction : Nat := x.magnitude % fractionCount
  if biased = 0 then (fraction, -1074) else (fractionCount + fraction, Int.ofNat biased - 1075)

/-- `base ^ n` for `n` on either side of zero, as a ratio of naturals. -/
def powerRatio (base : Nat) (n : Int) : Nat × Nat :=
  if 0 ≤ n then (base.pow n.toNat, 1) else (1, base.pow (-n).toNat)

/-- The largest `k` with `2 ^ k ≤ num / den`, for positive `num` and `den`. -/
def floorLog2 (num den : Nat) : Int :=
  let k : Int := (num.log2 : Int) - den.log2
  let p := powerRatio 2 k
  if num * p.2 < den * p.1 then k - 1 else k

/-- The quotient rounded to the nearest natural, ties to the even one. -/
def divNearestEven (num den : Nat) : Nat :=
  let q := num / den
  let r := num % den
  if 2 * r < den then q
  else if den < 2 * r then q + 1
  else if q % 2 = 0 then q else q + 1

/-- The magnitude nearest to `num / den`, ties to even; too large a ratio becomes infinity. -/
def roundMagnitude (num den : Nat) : Nat :=
  if num = 0 then 0
  else
    let e := max (-1074) (floorLog2 num den - 52)
    let p := powerRatio 2 e
    let steps := divNearestEven (num * p.2) (den * p.1)
    min ((e + 1074).toNat * fractionCount + steps) infinityMagnitude

/-- The number nearest to a signed ratio. -/
def roundRatio (negative : Bool) (num den : Nat) : Binary64 :=
  ofMagnitude negative (roundMagnitude num den)

/-- The number nearest to an integer. -/
def ofInt (n : Int) : Binary64 := roundRatio (decide (n < 0)) n.natAbs 1

/-- The finite magnitude as a ratio of naturals. -/
def ratio (x : Binary64) : Nat × Nat :=
  let (m, e) := x.parts
  let p := powerRatio 2 e
  (m * p.1, p.2)

/-- The rounded product of two finite numbers. -/
def mul (x y : Binary64) : Binary64 :=
  let a := x.ratio
  let b := y.ratio
  roundRatio (x.negative != y.negative) (a.1 * b.1) (a.2 * b.2)

/-- The rounded quotient of two finite numbers, the second not zero. -/
def div (x y : Binary64) : Binary64 :=
  let a := x.ratio
  let b := y.ratio
  roundRatio (x.negative != y.negative) (a.1 * b.2) (a.2 * b.1)

/-- The number nearest to `10 ^ n`. -/
def powerOfTen (n : Nat) : Binary64 := roundRatio false (Nat.pow 10 n) 1

end Binary64

end JobPool
