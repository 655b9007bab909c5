import JobPool.Binary64.Text

/-!
JSON values. An object is its list of members in the order in which they stand, and a name may
repeat; a number keeps apart integers, which are exact, and all others, which are binary64.
-/

namespace JobPool.Json

/-- A number: an integer between `-2^63` and `2^64 - 1` written without fraction and exponent, or
any other number, rounded. -/
inductive Number where
  | integer (value : Int)
  | real (value : Binary64)
  deriving DecidableEq, Repr

/-- A JSON value. -/
inductive Value where
  | null
  | bool (value : Bool)
  | number (value : Number)
  | text (value : String)
  | array (items : List Value)
  | object (members : List (String × Value))
  deriving Repr

namespace Value

/-- An unsigned word as a value. -/
def ofWord (n : UInt64) : Value := .number (.integer n.toNat)

/-- A signed word as a value. -/
def ofSigned (n : Int64) : Value := .number (.integer n.toInt)

/-- A list of strings as a value. -/
def ofTexts (items : List String) : Value := .array (items.map .text)

end Value

end JobPool.Json
