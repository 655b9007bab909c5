/-!
Faults: the ways in which an operation ends without a result, and arithmetic on machine words that
faults instead of wrapping.
-/

namespace JobPool

/-- Why an operation ended without a result. -/
inductive Fault where
  /-- A sum left the range of its word. -/
  | addOverflow
  /-- A difference left the range of its word. -/
  | subOverflow
  /-- A quotient left the range of its word. -/
  | divOverflow
  /-- The content was left behind by an operation that faulted while it held the lock. -/
  | poisoned
  /-- A thread name holds a NUL at this byte. -/
  | nulInThreadName (index : Nat) (bytes : List UInt8)
  /-- A channel was asked for without room for a single message. -/
  | noCapacity
  /-- A channel was asked for with more room than memory has addresses. -/
  | capacityOverflow
  deriving DecidableEq, Repr

namespace Fault

/-- The bytes of a name as a bracketed list of decimals. -/
def bytesText (bytes : List UInt8) : String :=
  "[" ++ ", ".intercalate (bytes.map fun b => toString b.toNat) ++ "]"

/-- The text that reports a fault. -/
def message : Fault → String
  | addOverflow => "attempt to add with overflow"
  | subOverflow => "attempt to subtract with overflow"
  | divOverflow => "attempt to divide with overflow"
  | poisoned => "called `Result::unwrap()` on an `Err` value: PoisonError \x7b .. \x7d"
  | nulInThreadName index bytes =>
      "thread name may not contain interior null bytes: NulError(" ++ toString index ++ ", "
        ++ bytesText bytes ++ ")"
  | noCapacity => "capacity cannot be zero"
  | capacityOverflow => "capacity overflow"

end Fault

/-- The number is the value of some signed 64-bit word. -/
def FitsSigned (n : Int) : Prop := -9223372036854775808 ≤ n ∧ n ≤ 9223372036854775807

instance (n : Int) : Decidable (FitsSigned n) := inferInstanceAs (Decidable (_ ∧ _))

/-- The sum of two signed words, if it is one. -/
def addChecked (a b : Int64) : Except Fault Int64 :=
  if FitsSigned (a.toInt + b.toInt) then .ok (a + b) else .error .addOverflow

/-- The difference of two signed words, if it is one. -/
def subChecked (a b : Int64) : Except Fault Int64 :=
  if FitsSigned (a.toInt - b.toInt) then .ok (a - b) else .error .subOverflow

/-- The quotient of two signed words, rounded toward zero, if it is one; the divisor is not zero. -/
def divChecked (a b : Int64) : Except Fault Int64 :=
  if FitsSigned (a.toInt.tdiv b.toInt) then .ok (a / b) else .error .divOverflow

/-- Only minus one takes a quotient out of its word. -/
theorem divChecked_of_ne (a : Int64) {b : Int64} (other : b ≠ -1) : divChecked a b = .ok (a / b) := by
  have quotient := Int64.toInt_div_of_ne_right a b other
  have low := Int64.le_toInt (a / b)
  have high := Int64.toInt_lt (a / b)
  exact if_pos ⟨by omega, by omega⟩

/-- The next unsigned word, if there is one. -/
def succChecked (n : UInt64) : Except Fault UInt64 :=
  if n.toNat + 1 < UInt64.size then .ok (n + 1) else .error .addOverflow

end JobPool
