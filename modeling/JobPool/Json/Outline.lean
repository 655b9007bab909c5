import JobPool.Json.Numeral
import JobPool.Json.Text

/-!
The outline of a text: its values as far as it is well formed, each with the text that follows it,
and the place where it breaks off, if it does. A reader of some content walks the outline in the
order of the text, so of a fault of content and a break the one that comes first is reported.
-/

namespace JobPool.Json

/-- A value without parts. -/
inductive Scalar where
  | null
  | bool (value : Bool)
  | number (value : Number)
  | text (value : String)
  deriving DecidableEq, Repr

/-- A scalar is a value. -/
def Scalar.toValue : Scalar → Value
  | null => .null
  | bool b => .bool b
  | number n => .number n
  | text s => .text s

mutual

/-- The outline of a value. -/
inductive Outline where
  | scalar (value : Scalar) (rest : List Char)
  /-- An array; `start` is the text from its bracket on. -/
  | array (start : List Char) (items : Items)
  /-- An object; `start` is the text from its brace on. -/
  | object (start : List Char) (members : Members)
  | broken (stop : Stop SyntaxError)

/-- The items of an array up to its bracket. -/
inductive Items where
  | closed (rest : List Char)
  | item (value : Outline) (next : Items)
  | broken (stop : Stop SyntaxError)

/-- The members of an object up to its brace; `rest` follows the name of a member. -/
inductive Members where
  | closed (rest : List Char)
  | member (name : String) (rest : List Char) (value : Outline) (next : Members)
  | broken (stop : Stop SyntaxError)

end

/-- Blanks between the parts of a text. -/
def isBlank (c : Char) : Bool := c = ' ' || c = '\n' || c = '\t' || c = '\r'

/-- Drops the blanks at the head of a text. -/
def skipBlanks (cs : List Char) : List Char := cs.dropWhile isBlank

/-- How many arrays and objects may stand inside one another. -/
def depthLimit : Nat := 127

/-- The text that follows an array, or the break that hides it. -/
def Items.rest : Items → Except (Stop SyntaxError) (List Char)
  | .closed rest => .ok rest
  | .item _ next => next.rest
  | .broken stop => .error stop

/-- The text that follows an object, or the break that hides it. -/
def Members.rest : Members → Except (Stop SyntaxError) (List Char)
  | .closed rest => .ok rest
  | .member _ _ _ next => next.rest
  | .broken stop => .error stop

/-- The text that follows a value, or the break that hides it. -/
def Outline.rest : Outline → Except (Stop SyntaxError) (List Char)
  | .scalar _ rest => .ok rest
  | .array _ items => items.rest
  | .object _ members => members.rest
  | .broken stop => .error stop

/-- Reads the letters of a word one by one; the first that differs is consumed. -/
def readWord : List Char → List Char → Except (Stop SyntaxError) (List Char)
  | [], cs => .ok cs
  | _ :: _, [] => .error (.after .endInValue [])
  | w :: ws, c :: cs => if w = c then readWord ws cs else .error (.on .badWord (c :: cs))

/-- Reads the colon between a name and its value. -/
def readColon (cs : List Char) : Except (Stop SyntaxError) (List Char) :=
  match skipBlanks cs with
  | [] => .error (.on .endInObject [])
  | c :: rest => if c = ':' then .ok rest else .error (.on .expectedColon (c :: rest))

/-- The outline of what was read, or of the break. -/
def Outline.ofScalar : Except (Stop SyntaxError) (Scalar × List Char) → Outline
  | .ok (value, rest) => .scalar value rest
  | .error stop => .broken stop

/-- The outline of a word. -/
def outlineWord (value : Scalar) (word : String) (cs : List Char) : Outline :=
  .ofScalar ((readWord word.toList cs).map fun rest => (value, rest))

mutual

/-- The outline of the value at the head of a text, after blanks. The depth is what the value may
use, the fuel bounds the number of values. -/
def outlineValue (depth : Nat) : Nat → List Char → Outline
  | 0, cs => .broken (.on .expectedValue cs)
  | fuel + 1, cs =>
    match skipBlanks cs with
    | [] => .broken (.on .endInValue [])
    | c :: rest =>
      if c = 'n' then outlineWord .null "ull" rest
      else if c = 't' then outlineWord (.bool true) "rue" rest
      else if c = 'f' then outlineWord (.bool false) "alse" rest
      else if c = '"' then .ofScalar ((readText rest).map fun r => (.text r.1, r.2))
      else if c = '-' ∨ isDigit c then
        .ofScalar ((readNumeral (c :: rest)).map fun r => (.number r.1, r.2))
      else if c = '[' then
        match depth with
        | 0 => .broken (.on .tooDeep (c :: rest))
        | depth + 1 => .array (c :: rest) (outlineItems depth true fuel rest)
      else if c = '{' then
        match depth with
        | 0 => .broken (.on .tooDeep (c :: rest))
        | depth + 1 => .object (c :: rest) (outlineMembers depth true fuel rest)
      else .broken (.on .expectedValue (c :: rest))
termination_by structural fuel => fuel

/-- The outline of the items that are left; no comma stands before the first. -/
def outlineItems (depth : Nat) (first : Bool) : Nat → List Char → Items
  | 0, cs => .broken (.on .expectedValue cs)
  | fuel + 1, cs =>
    match skipBlanks cs with
    | [] => .broken (.on .endInArray [])
    | c :: rest =>
      if c = ']' then .closed rest
      else if first then outlineItem depth fuel (c :: rest)
      else if c = ',' then
        match skipBlanks rest with
        | [] => .broken (.on .endInValue [])
        | d :: more =>
          if d = ']' then .broken (.on .commaAtEnd (d :: more))
          else outlineItem depth fuel (d :: more)
      else .broken (.on .expectedCommaInArray (c :: rest))
termination_by structural fuel => fuel

/-- The outline of an item and of those after it. -/
def outlineItem (depth : Nat) : Nat → List Char → Items
  | 0, cs => .broken (.on .expectedValue cs)
  | fuel + 1, cs =>
    let value := outlineValue depth fuel cs
    match value.rest with
    | .ok rest => .item value (outlineItems depth false fuel rest)
    | .error stop => .item value (.broken stop)
termination_by structural fuel => fuel

/-- The outline of the members that are left; no comma stands before the first. -/
def outlineMembers (depth : Nat) (first : Bool) : Nat → List Char → Members
  | 0, cs => .broken (.on .expectedValue cs)
  | fuel + 1, cs =>
    match skipBlanks cs with
    | [] => .broken (.on .endInObject [])
    | c :: rest =>
      if c = '}' then .closed rest
      else if first then outlineMember depth fuel (c :: rest)
      else if c = ',' then
        match skipBlanks rest with
        | [] => .broken (.on .endInValue [])
        | d :: more =>
          if d = '}' then .broken (.on .commaAtEnd (d :: more))
          else outlineMember depth fuel (d :: more)
      else .broken (.on .expectedCommaInObject (c :: rest))
termination_by structural fuel => fuel

/-- The outline of a member and of those after it. -/
def outlineMember (depth : Nat) : Nat → List Char → Members
  | 0, cs => .broken (.on .expectedValue cs)
  | fuel + 1, cs =>
    match cs with
    | [] => .broken (.on .endInValue [])
    | c :: rest =>
      if c ≠ '"' then .broken (.on .keyNotText (c :: rest))
      else
        match readText rest with
        | .error stop => .broken stop
        | .ok (name, rest) =>
          match readColon rest with
          | .error stop => .member name rest (.broken stop) (.broken stop)
          | .ok more =>
            let value := outlineValue depth fuel more
            match value.rest with
            | .ok after => .member name rest value (outlineMembers depth false fuel after)
            | .error stop => .member name rest value (.broken stop)
termination_by structural fuel => fuel

end

/-- The outline of the value that a text starts with. -/
def outline (cs : List Char) : Outline := outlineValue depthLimit (3 * cs.length + 3) cs

mutual

/-- The value of an outline, or its first break. -/
def Outline.value : Outline → Except (Stop SyntaxError) Value
  | .scalar value _ => .ok value.toValue
  | .array _ items => return .array (← items.values)
  | .object _ members => return .object (← members.pairs)
  | .broken stop => .error stop

/-- The values of items, or their first break. -/
def Items.values : Items → Except (Stop SyntaxError) (List Value)
  | .closed _ => .ok []
  | .item value next => return (← value.value) :: (← next.values)
  | .broken stop => .error stop

/-- The names and values of members, or their first break. -/
def Members.pairs : Members → Except (Stop SyntaxError) (List (String × Value))
  | .closed _ => .ok []
  | .member name _ value next => return (name, ← value.value) :: (← next.pairs)
  | .broken stop => .error stop

end

end JobPool.Json
