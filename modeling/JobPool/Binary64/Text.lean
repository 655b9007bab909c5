import JobPool.Binary64.Shortest

/-!
The text of a number: shortest digits, laid out in positional or scientific notation by the decimal
exponent.
-/

namespace JobPool.Binary64

/-- The decisions that turn digits into text. -/
structure Layout where
  /-- The least decimal exponent written in positional notation. -/
  positionalFrom : Int
  /-- The greatest decimal exponent written in positional notation. -/
  positionalTo : Int
  /-- Whether a positional text without fraction ends in `.0`. -/
  keepPoint : Bool
  /-- What stands before a non-negative exponent. -/
  exponentPlus : String

/-- Positional from `1e-5` up to below `1e16`, always with a point; scientific exponents are
signed. -/
def Layout.plain : Layout := ⟨-5, 15, true, "+"⟩

/-- `n` zeros. -/
def zeros (n : Nat) : String := String.ofList (List.replicate n '0')

/-- The digits of a decimal in a layout. -/
def Layout.write (layout : Layout) (d : Decimal) : String :=
  let digits := (Nat.repr d.digits).toList
  let count : Int := digits.length
  let scientific := d.exponent + count - 1
  if layout.positionalFrom ≤ scientific ∧ scientific ≤ layout.positionalTo then
    if 0 ≤ d.exponent then
      String.ofList digits ++ zeros d.exponent.toNat ++ (if layout.keepPoint then ".0" else "")
    else if 0 ≤ scientific then
      let whole := (scientific + 1).toNat
      String.ofList (digits.take whole) ++ "." ++ String.ofList (digits.drop whole)
    else
      "0." ++ zeros (-scientific - 1).toNat ++ String.ofList digits
  else
    let tail := digits.drop 1
    String.ofList (digits.take 1)
      ++ (if tail.isEmpty then "" else "." ++ String.ofList tail)
      ++ "e" ++ (if 0 ≤ scientific then layout.exponentPlus else "-")
      ++ Nat.repr scientific.natAbs

/-- The text of a finite number. -/
def text (x : Binary64) : String :=
  (if x.negative then "-" else "")
    ++ (if x.magnitude = 0 then "0.0" else Layout.plain.write x.shortest)

end JobPool.Binary64
