import JobPool.Json.Writer

/-!
The text of a JSON value over several lines: every item and every member has a line of its own,
indented by two blanks for each bracket around it. Brackets without content stay on one line.
-/

namespace JobPool.Json

/-- A new line inside so many brackets. -/
def newLine (depth : Nat) : List Char := '\n' :: .replicate (2 * depth) ' '

mutual

/-- The characters of a value inside so many brackets. -/
def Value.lines (depth : Nat) : Value → List Char
  | .array (v :: rest) =>
    '[' :: newLine (depth + 1) ++ v.lines (depth + 1) ++ itemsLines (depth + 1) rest
      ++ newLine depth ++ [']']
  | .object ((name, v) :: rest) =>
    '{' :: newLine (depth + 1) ++ memberLines (depth + 1) name v
      ++ membersLines (depth + 1) rest ++ newLine depth ++ ['}']
  | .array [] => ['[', ']']
  | .object [] => ['{', '}']
  | .null => Value.chars .null
  | .bool b => Value.chars (.bool b)
  | .number n => Value.chars (.number n)
  | .text s => Value.chars (.text s)

/-- A member of an object. -/
def memberLines (depth : Nat) (name : String) (v : Value) : List Char :=
  textChars name ++ ':' :: ' ' :: v.lines depth

/-- The items of an array after the first. -/
def itemsLines (depth : Nat) : List Value → List Char
  | [] => []
  | v :: rest => ',' :: newLine depth ++ v.lines depth ++ itemsLines depth rest

/-- The members of an object after the first. -/
def membersLines (depth : Nat) : List (String × Value) → List Char
  | [] => []
  | (name, v) :: rest =>
    ',' :: newLine depth ++ memberLines depth name v ++ membersLines depth rest

end

/-- The text of a value over several lines. -/
def Value.layOut (v : Value) : String := String.ofList (v.lines 0)

end JobPool.Json
