import JobPool.Json.Stop
import JobPool.Json.Value

/-!
Numerals. Digits are taken into a 64-bit significand while it has room; whole digits beyond that
count into the exponent, digits of a fraction beyond that are dropped. The value is the significand,
rounded, times or over a power of ten, rounded again.
-/

namespace JobPool.Json

/-- A decimal digit. -/
def isDigit (c : Char) : Bool := decide (0x30 ≤ c.toNat ∧ c.toNat ≤ 0x39)

/-- The digits at the head of a text. -/
def leadingDigits (cs : List Char) : List Nat := (cs.takeWhile isDigit).map fun c => c.toNat - 0x30

/-- What follows the digits at the head of a text. -/
def afterDigits (cs : List Char) : List Char := cs.dropWhile isDigit

/-- Appends digits to a number while it stays below the limit; the digits without room come back. -/
def absorb (limit : Nat) : Nat → List Nat → Nat × List Nat
  | n, [] => (n, [])
  | n, d :: ds => if n * 10 + d < limit then absorb limit (n * 10 + d) ds else (n, d :: ds)

/-- `x / 10 ^ n`, in steps that a binary64 divisor allows. -/
def scaleDown (x : Binary64) (n : Nat) : Binary64 :=
  if n ≤ 308 then x.div (Binary64.powerOfTen n)
  else if x.magnitude = 0 then x
  else scaleDown (x.div (Binary64.powerOfTen 308)) (n - 308)
termination_by n

/-- `significand · 10 ^ exponent` as a magnitude, if it is in range. -/
def scale (significand : Nat) (exponent : Int) : Option Binary64 :=
  let x := Binary64.roundRatio false significand 1
  if exponent < 0 then some (scaleDown x exponent.natAbs)
  else if 308 < exponent then (if significand = 0 then some x else none)
  else
    let y := x.mul (Binary64.powerOfTen exponent.toNat)
    if y.isFinite then some y else none

/-- A magnitude with a sign. -/
def signed (negative : Bool) (x : Binary64) : Number := .real (.ofMagnitude negative x.magnitude)

/-- The number with these parts, whose text ends before `rest`. -/
def ofParts (negative : Bool) (significand : Nat) (exponent : Int) (rest : List Char) :
    Except (Stop SyntaxError) (Number × List Char) :=
  match scale significand exponent with
  | some x => .ok (signed negative x, rest)
  | none => .error (.after .numberOutOfRange rest)

/-- A number without fraction and exponent whose significand had room for all digits. -/
def ofWhole (negative : Bool) (significand : Nat) : Number :=
  if !negative then .integer significand
  else if 0 < significand ∧ significand ≤ Binary64.signBit then .integer (-(significand : Int))
  else signed true (Binary64.roundRatio false significand 1)

/-- Written exponents from `2 ^ 31` on are not looked at closely. -/
def exponentLimit : Nat := 2147483648

/-- Reads the digits of an exponent and finishes the number. -/
def readExponentDigits (negative : Bool) (significand : Nat) (exponent : Int) (down : Bool)
    (cs : List Char) : Except (Stop SyntaxError) (Number × List Char) :=
  match leadingDigits cs with
  | [] => if cs.isEmpty then .error (.on .endInValue cs) else .error (.on .badNumber cs)
  | digits =>
    let rest := afterDigits cs
    match absorb exponentLimit 0 digits with
    | (n, []) => ofParts negative significand (if down then exponent - n else exponent + n) rest
    | (_, _ :: more) =>
      if significand ≠ 0 ∧ !down then .error ⟨.numberOutOfRange, byteCount rest + more.length⟩
      else .ok (signed negative (.zero false), rest)

/-- Reads an exponent, its letter already consumed. -/
def readExponent (negative : Bool) (significand : Nat) (exponent : Int) :
    List Char → Except (Stop SyntaxError) (Number × List Char)
  | '+' :: rest => readExponentDigits negative significand exponent false rest
  | '-' :: rest => readExponentDigits negative significand exponent true rest
  | rest => readExponentDigits negative significand exponent false rest

/-- What may follow the digits of a number: an exponent, or nothing. -/
def readTail (negative : Bool) (significand : Nat) (exponent : Int) :
    List Char → Except (Stop SyntaxError) (Number × List Char)
  | 'e' :: rest => readExponent negative significand exponent rest
  | 'E' :: rest => readExponent negative significand exponent rest
  | rest => ofParts negative significand exponent rest

/-- Reads a fraction, its point already consumed. -/
def readFraction (negative : Bool) (significand : Nat) (exponent : Int) (cs : List Char) :
    Except (Stop SyntaxError) (Number × List Char) :=
  match leadingDigits cs with
  | [] => if cs.isEmpty then .error (.on .endInValue cs) else .error (.on .badNumber cs)
  | digits =>
    let (n, dropped) := absorb UInt64.size significand digits
    readTail negative n (exponent - (digits.length - dropped.length : Nat)) (afterDigits cs)

/-- Reads what follows the whole digits of a number. -/
def readAfterWhole (negative : Bool) (digits : List Nat) (rest : List Char) :
    Except (Stop SyntaxError) (Number × List Char) :=
  match absorb UInt64.size 0 digits, rest with
  | (n, dropped), '.' :: more => readFraction negative n dropped.length more
  | (n, dropped), 'e' :: more => readExponent negative n dropped.length more
  | (n, dropped), 'E' :: more => readExponent negative n dropped.length more
  | (n, []), _ => .ok (ofWhole negative n, rest)
  | (n, dropped), _ => ofParts negative n dropped.length rest

/-- Reads a number without its sign. -/
def readMagnitude (negative : Bool) :
    List Char → Except (Stop SyntaxError) (Number × List Char)
  | [] => .error (.on .endInValue [])
  | '0' :: rest =>
    if (leadingDigits rest).isEmpty then readAfterWhole negative [0] rest
    else .error (.on .badNumber rest)
  | cs =>
    if (leadingDigits cs).isEmpty then .error (.on .badNumber cs)
    else readAfterWhole negative (leadingDigits cs) (afterDigits cs)

/-- Reads a number. -/
def readNumeral : List Char → Except (Stop SyntaxError) (Number × List Char)
  | '-' :: rest => readMagnitude true rest
  | cs => readMagnitude false cs

end JobPool.Json
