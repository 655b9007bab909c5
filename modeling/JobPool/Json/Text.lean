import JobPool.Json.Stop

/-!
Strings in a JSON text: characters up to the closing quote, with escapes. A code point beyond the
first plane may be escaped as a pair of surrogates; a surrogate on its own is refused.
-/

namespace JobPool.Json

/-- The value of a hexadecimal digit. -/
def hexValue? (c : Char) : Option Nat :=
  let n := c.toNat
  if 0x30 ≤ n ∧ n ≤ 0x39 then some (n - 0x30)
  else if 0x41 ≤ n ∧ n ≤ 0x46 then some (n - 0x41 + 10)
  else if 0x61 ≤ n ∧ n ≤ 0x66 then some (n - 0x61 + 10)
  else none

/-- The four hexadecimal digits at the head of a text, as a number. -/
def fourHex? : List Char → Option (Nat × List Char)
  | a :: b :: c :: d :: rest =>
    match hexValue? a, hexValue? b, hexValue? c, hexValue? d with
    | some a, some b, some c, some d => some (((a * 16 + b) * 16 + c) * 16 + d, rest)
    | _, _, _, _ => none
  | _ => none

/-- Reads four hexadecimal digits; four bytes are consumed whatever they are. -/
def readFourHex (cs : List Char) : Except (Stop SyntaxError) (Nat × List Char) :=
  if byteCount cs < 4 then .error ⟨.endInText, 0⟩
  else
    match fourHex? cs with
    | some r => .ok r
    | none => .error ⟨.badEscape, byteCount cs - 4⟩

/-- A code unit that opens a pair. -/
def isHighSurrogate (n : Nat) : Bool := decide (0xd800 ≤ n ∧ n < 0xdc00)

/-- A code unit that closes a pair. -/
def isLowSurrogate (n : Nat) : Bool := decide (0xdc00 ≤ n ∧ n < 0xe000)

/-- Reads `c` where only `c` may stand inside a pair of surrogates. -/
def readInPair (c : Char) : List Char → Except (Stop SyntaxError) (List Char)
  | [] => .error (.after .endInText [])
  | d :: rest => if d = c then .ok rest else .error (.on .endInSurrogatePair (d :: rest))

/-- Reads a numeric escape after its `\u`. -/
def readCodePoint (cs : List Char) : Except (Stop SyntaxError) (Char × List Char) := do
  let (n, rest) ← readFourHex cs
  if isLowSurrogate n then .error (.after .loneSurrogate rest)
  else if isHighSurrogate n then
    let rest ← readInPair '\\' rest
    let rest ← readInPair 'u' rest
    let (low, rest) ← readFourHex rest
    if isLowSurrogate low then
      return (Char.ofNat (0x10000 + (n - 0xd800) * 0x400 + (low - 0xdc00)), rest)
    else .error (.after .loneSurrogate rest)
  else return (Char.ofNat n, rest)

/-- Reads an escape after its backslash. -/
def readEscape : List Char → Except (Stop SyntaxError) (Char × List Char)
  | [] => .error (.after .endInText [])
  | '"' :: rest => .ok ('"', rest)
  | '\\' :: rest => .ok ('\\', rest)
  | '/' :: rest => .ok ('/', rest)
  | 'b' :: rest => .ok ('\x08', rest)
  | 'f' :: rest => .ok ('\x0c', rest)
  | 'n' :: rest => .ok ('\n', rest)
  | 'r' :: rest => .ok ('\r', rest)
  | 't' :: rest => .ok ('\t', rest)
  | 'u' :: rest => readCodePoint rest
  | cs => .error (.on .badEscape cs)

/-- Reads up to the closing quote; the fuel bounds the number of characters. -/
def readTextFrom : Nat → List Char → Except (Stop SyntaxError) (List Char × List Char)
  | 0, cs => .error (.after .endInText cs)
  | _, [] => .error (.after .endInText [])
  | fuel + 1, c :: rest =>
    if c = '"' then .ok ([], rest)
    else if c = '\\' then do
      let (d, rest) ← readEscape rest
      let (ds, rest) ← readTextFrom fuel rest
      return (d :: ds, rest)
    else if c.toNat < 0x20 then .error (.after .controlCharacter rest)
    else do
      let (ds, rest) ← readTextFrom fuel rest
      return (c :: ds, rest)

/-- Reads a string after its opening quote. -/
def readText (cs : List Char) : Except (Stop SyntaxError) (String × List Char) := do
  let (ds, rest) ← readTextFrom (cs.length + 1) cs
  return (String.ofList ds, rest)

end JobPool.Json
