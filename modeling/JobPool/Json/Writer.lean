import JobPool.Json.Value

/-!
The compact text of a JSON value: no blanks, members in their order, and in strings only the two
characters that need it and the control characters are escaped.
-/

namespace JobPool.Json

/-- A lower-case hexadecimal digit. -/
def hexDigit (n : Nat) : Char := Nat.digitChar n

/-- The escape of one character inside a string. -/
def escapeChar (c : Char) : List Char :=
  if c = '"' then ['\\', '"']
  else if c = '\\' then ['\\', '\\']
  else if c = '\x08' then ['\\', 'b']
  else if c = '\x0c' then ['\\', 'f']
  else if c = '\n' then ['\\', 'n']
  else if c = '\r' then ['\\', 'r']
  else if c = '\t' then ['\\', 't']
  else if c.toNat < 0x20 then
    ['\\', 'u', '0', '0', hexDigit (c.toNat / 16), hexDigit (c.toNat % 16)]
  else [c]

/-- A string in quotes. -/
def textChars (s : String) : List Char := '"' :: s.toList.flatMap escapeChar ++ ['"']

/-- A number; what is not a number in this sense is written `null`. -/
def Number.chars : Number → List Char
  | integer n => (toString n).toList
  | real x => if x.isFinite then x.text.toList else "null".toList

mutual

/-- The characters of a value. -/
def Value.chars : Value → List Char
  | .null => "null".toList
  | .bool b => (if b then "true" else "false").toList
  | .number n => n.chars
  | .text s => textChars s
  | .array items => '[' :: itemsChars items ++ [']']
  | .object members => '{' :: membersChars members ++ ['}']

/-- The items of an array, a comma between them. -/
def itemsChars : List Value → List Char
  | [] => []
  | [v] => v.chars
  | v :: rest => v.chars ++ ',' :: itemsChars rest

/-- The members of an object, a comma between them. -/
def membersChars : List (String × Value) → List Char
  | [] => []
  | [(name, v)] => textChars name ++ ':' :: v.chars
  | (name, v) :: rest => textChars name ++ ':' :: v.chars ++ ',' :: membersChars rest

end

/-- The compact text of a value. -/
def Value.write (v : Value) : String := String.ofList v.chars

end JobPool.Json
