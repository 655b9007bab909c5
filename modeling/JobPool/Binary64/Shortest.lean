import JobPool.Binary64.Basic

/-!
Shortest decimals: of all decimals that round to a given number, the ones with the fewest digits,
and of those the nearest; a tie goes to the even digit.
-/

namespace JobPool.Binary64

/-- A decimal `digits · 10 ^ exponent`. -/
structure Decimal where
  digits : Nat
  exponent : Int
  deriving DecidableEq, Repr

/-- The largest `p` with `10 ^ p ≤ num / den`, from an estimate by the binary logarithm. -/
def floorLog10 (num den : Nat) : Int :=
  let p := (floorLog2 num den * 30103) / 100000
  let low := powerRatio 10 p
  let high := powerRatio 10 (p + 1)
  if num * low.2 < den * low.1 then p - 1
  else if num * high.2 < den * high.1 then p else p + 1

/-- The decimal rounds to the number `x`: it lies between the midpoints to the neighbours of `x`,
which belong to `x` when its significand is even. -/
def reads (x : Binary64) (d : Decimal) : Bool :=
  let (m, e) := x.parts
  let unit := powerRatio 2 (e - 2)
  let ten := powerRatio 10 d.exponent
  let value := d.digits * ten.1 * unit.2
  let scale := ten.2 * unit.1
  let low := (if m = fractionCount ∧ e ≠ -1074 then 4 * m - 1 else 4 * m - 2) * scale
  let high := (4 * m + 2) * scale
  if m % 2 = 0 then decide (low ≤ value ∧ value ≤ high) else decide (low < value ∧ value < high)

/-- The two neighbours of the number on the grid of `10 ^ exponent`; the one to write, if one of
them rounds back. -/
def onGrid (x : Binary64) (exponent : Int) : Option Decimal :=
  let (num, den) := x.ratio
  let ten := powerRatio 10 exponent
  let n := num * ten.2
  let d := den * ten.1
  let below : Decimal := ⟨n / d, exponent⟩
  let above : Decimal := ⟨n / d + 1, exponent⟩
  match reads x below, reads x above with
  | true, true =>
      let r := n % d
      if 2 * r < d then some below
      else if d < 2 * r then some above
      else if below.digits % 2 = 0 then some below else some above
  | true, false => some below
  | false, true => some above
  | false, false => none

/-- Tries `digits`, `digits + 1`, … significant digits until a decimal reads back. -/
def search (x : Binary64) (top : Int) : (tries digits : Nat) → Decimal
  | 0, digits => ⟨x.ratio.1 / x.ratio.2, top + 1 - (digits : Int)⟩
  | tries + 1, digits =>
      match onGrid x (top + 1 - (digits : Int)) with
      | some d => d
      | none => search x top tries (digits + 1)

/-- Drops zeros at the end of the digits; at most `n` of them. -/
def trim : Nat → Decimal → Decimal
  | 0, d => d
  | n + 1, d => if d.digits % 10 = 0 then trim n ⟨d.digits / 10, d.exponent + 1⟩ else d

/-- The shortest decimal of a finite magnitude other than zero. -/
def shortest (x : Binary64) : Decimal :=
  let (num, den) := x.ratio
  trim 20 (search x (floorLog10 num den) 17 1)

end JobPool.Binary64
