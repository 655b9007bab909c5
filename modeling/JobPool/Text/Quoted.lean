import JobPool.Text.Invisible
import JobPool.Text.Extender

/-!
Quoted text: a string between double quotes in which every character that a reader could not see, or
would take for part of the quoting, is escaped. Lists of strings and the `Name { field: … }` form of
a record are built from it.
-/

namespace JobPool.Text

/-- `c` lies in one of the closed ranges. -/
def inRanges (ranges : List (Nat × Nat)) (c : Char) : Bool :=
  ranges.any fun r => decide (r.1 ≤ c.toNat ∧ c.toNat ≤ r.2)

/-- Letters that are drawn as nothing: the Hangul fillers. -/
def fillers : List Nat := [0x115f, 0x1160, 0x3164, 0xffa0]

/-- A character stands for itself in quoted text if it is visible and does not attach itself to the
character before it. -/
def isPlain (c : Char) : Bool :=
  if 0x20 ≤ c.toNat ∧ c.toNat < 0x7f then true
  else !(inRanges invisibleRanges c || inRanges extenderRanges c || fillers.contains c.toNat)

/-- Lower-case hexadecimal digits without leading zeros. -/
def hexDigits (n : Nat) : List Char := Nat.toDigits 16 n

/-- The escape of one character: short forms first, then the code point in hexadecimal unless the
character is plain. -/
def escapeChar (c : Char) : List Char :=
  if c = '"' then ['\\', '"']
  else if c = '\\' then ['\\', '\\']
  else if c = '\n' then ['\\', 'n']
  else if c = '\r' then ['\\', 'r']
  else if c = '\t' then ['\\', 't']
  else if c = '\x00' then ['\\', '0']
  else if isPlain c then [c]
  else ['\\', 'u', '{'] ++ hexDigits c.toNat ++ ['}']

/-- A string in quotes, escaped. -/
def quoted (s : String) : String :=
  String.ofList ('"' :: s.toList.flatMap escapeChar ++ ['"'])

/-- A list of strings, each quoted, in square brackets. -/
def quotedList (items : List String) : String :=
  "[" ++ ", ".intercalate (items.map quoted) ++ "]"

/-- The written form of a record, its name before its fields; the values are already written. -/
def record (name : String) (fields : List (String × String)) : String :=
  name ++ " \x7b " ++ ", ".intercalate (fields.map fun f => f.1 ++ ": " ++ f.2) ++ " \x7d"

end JobPool.Text
