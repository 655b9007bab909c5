import JobPool.Json.Outline

/-!
The grammar of JSON. A document is a value as it is written, up to the blanks between its parts and
the escapes in its strings; a numeral keeps its digits. `Document.WrittenAs` says which texts write
a document. It stands beside the reader and does not know of it: texts are taken apart from the
left, `Written v cs rest` saying that `cs` starts with `v` and goes on with `rest`.
-/

namespace JobPool.Json

/-- Decimal digits, at least one. -/
structure Digits where
  chars : List Char
  decimal : ∀ c ∈ chars, isDigit c = true
  nonempty : chars ≠ []

namespace Digits

/-- The digits one by one. -/
def values (d : Digits) : List Nat := d.chars.map fun c => c.toNat - 0x30

/-- The number that the digits stand for. -/
def value (d : Digits) : Nat := d.values.foldl (fun n digit => n * 10 + digit) 0

end Digits

/-- The sign of an exponent. -/
inductive Sign where
  | absent
  | plus
  | minus
  deriving DecidableEq

/-- The sign as it is written. -/
def Sign.chars : Sign → List Char
  | absent => []
  | plus => ['+']
  | minus => ['-']

/-- An exponent. -/
structure Exponent where
  capital : Bool
  sign : Sign
  digits : Digits

/-- The exponent as it is written. -/
def Exponent.chars (e : Exponent) : List Char :=
  (if e.capital then 'E' else 'e') :: (e.sign.chars ++ e.digits.chars)

/-- A fraction with its point, if there is one. -/
def fractionChars : Option Digits → List Char
  | none => []
  | some digits => '.' :: digits.chars

/-- An exponent, if there is one. -/
def exponentChars : Option Exponent → List Char
  | none => []
  | some e => e.chars

/-- A numeral. -/
structure Numeral where
  negative : Bool
  whole : Digits
  /-- No zero stands before other whole digits. -/
  trimmed : whole.chars.head? = some '0' → whole.chars = ['0']
  fraction : Option Digits
  exponent : Option Exponent

namespace Numeral

/-- The numeral as it is written. -/
def chars (n : Numeral) : List Char :=
  (if n.negative then ['-'] else []) ++ (n.whole.chars ++ (fractionChars n.fraction ++ exponentChars n.exponent))

/-- The numeral has neither fraction nor exponent. -/
def isWhole (n : Numeral) : Bool := n.fraction.isNone && n.exponent.isNone

/-- The first digits, as many as an unsigned word holds, and the power of ten that is due for the
whole digits that it does not hold and the digits of the fraction that it does. -/
def significand (n : Numeral) : Nat × Int :=
  let (whole, left) := absorb UInt64.size 0 n.whole.values
  match n.fraction with
  | none => (whole, left.length)
  | some digits =>
    let (held, dropped) := absorb UInt64.size whole digits.values
    (held, left.length - (digits.values.length - dropped.length : Nat))

/-- A significand, scaled by a power of ten and by an exponent that is written, if that is in
range. -/
def raise (significand : Nat) (power : Int) : Option Exponent → Option Binary64
  | none => scale significand power
  | some e =>
    match absorb exponentLimit 0 e.digits.values with
    | (n, []) => scale significand (if e.sign = .minus then power - n else power + n)
    | (_, _ :: _) => if significand ≠ 0 ∧ e.sign ≠ .minus then none else some (.zero false)

/-- The number that a numeral is read as: exactly, if it is whole and its digits fit into an
unsigned word, and otherwise in binary64, if its magnitude is in range there. -/
def number? (n : Numeral) : Option Number :=
  if n.isWhole ∧ n.whole.value < UInt64.size then some (ofWhole n.negative n.whole.value)
  else (raise n.significand.1 n.significand.2 n.exponent).map (signed n.negative)

/-- The number stays finite in the arithmetic of its reading. -/
def InReach (n : Numeral) : Prop := n.number?.isSome = true

/-- The power of ten that a numeral is scaled by, if its point is left out. -/
def power (n : Numeral) : Int :=
  (match n.exponent with
    | none => 0
    | some e => if e.sign = .minus then -(e.digits.value : Int) else e.digits.value) -
  (match n.fraction with
    | none => 0
    | some digits => (digits.values.length : Int))

/-- The magnitude that a numeral stands for, as a ratio. -/
def magnitude (n : Numeral) : Nat × Nat :=
  let digits := n.whole.values ++ (match n.fraction with
    | none => []
    | some digits => digits.values)
  let scale := Binary64.powerRatio 10 n.power
  (digits.foldl (fun n digit => n * 10 + digit) 0 * scale.1, scale.2)

/-- The magnitude is at most that of the largest binary64 number, exactly. -/
def InRange (n : Numeral) : Prop :=
  let largest := (Binary64.ofMagnitude false (Binary64.infinityMagnitude - 1)).ratio
  n.magnitude.1 * largest.2 ≤ largest.1 * n.magnitude.2

instance (n : Numeral) : Decidable n.InRange := Nat.decLe _ _

/-- With a part in `2 ^ 51` more the magnitude would still be in range, and an exponent that raises it has a number that
readers look at closely. -/
def Moderate (n : Numeral) : Prop :=
  let largest := (Binary64.ofMagnitude false (Binary64.infinityMagnitude - 1)).ratio
  (∀ e, n.exponent = some e → e.sign = .minus ∨ e.digits.value < exponentLimit) ∧
    n.magnitude.1 * largest.2 * (2251799813685248 + 1) ≤ largest.1 * n.magnitude.2 * 2251799813685248

end Numeral

/-- A JSON value as it is written. An object may repeat a name. -/
inductive Document where
  | null
  | bool (value : Bool)
  | numeral (value : Numeral)
  | text (value : String)
  | array (items : List Document)
  | object (members : List (String × Document))

mutual

/-- How many arrays and objects stand inside one another. -/
def Document.depth : Document → Nat
  | .array items => itemsDepth items + 1
  | .object members => membersDepth members + 1
  | .null | .bool _ | .numeral _ | .text _ => 0

/-- The depth of the deepest item. -/
def itemsDepth : List Document → Nat
  | [] => 0
  | v :: rest => max v.depth (itemsDepth rest)

/-- The depth of the deepest member. -/
def membersDepth : List (String × Document) → Nat
  | [] => 0
  | (_, v) :: rest => max v.depth (membersDepth rest)

end

mutual

/-- The property holds of every numeral. -/
def Document.Every (p : Numeral → Prop) : Document → Prop
  | .numeral n => p n
  | .array items => EveryItem p items
  | .object members => EveryMember p members
  | .null | .bool _ | .text _ => True

/-- The property holds of every numeral in the items. -/
def EveryItem (p : Numeral → Prop) : List Document → Prop
  | [] => True
  | v :: rest => v.Every p ∧ EveryItem p rest

/-- The property holds of every numeral in the members. -/
def EveryMember (p : Numeral → Prop) : List (String × Document) → Prop
  | [] => True
  | (_, v) :: rest => v.Every p ∧ EveryMember p rest

end

/-- The text starts with blanks, or with none, and goes on with `rest`. -/
def Blanks (cs rest : List Char) : Prop :=
  ∃ blanks, (∀ c ∈ blanks, isBlank c = true) ∧ cs = blanks ++ rest

/-- The letters of the short escapes and what they stand for. -/
def shortEscapes : List (Char × Char) :=
  [('"', '"'), ('\\', '\\'), ('/', '/'), ('b', '\x08'), ('f', '\x0c'), ('n', '\n'), ('r', '\r'),
    ('t', '\t')]

/-- The text starts with a character of a string, as it is or escaped. -/
inductive CharWritten : Char → List Char → List Char → Prop
  | plain {c : Char} {rest : List Char} (usual : c ≠ '"' ∧ c ≠ '\\' ∧ 0x20 ≤ c.toNat) :
    CharWritten c (c :: rest) rest
  | short {c letter : Char} {rest : List Char} (listed : (letter, c) ∈ shortEscapes) :
    CharWritten c ('\\' :: letter :: rest) rest
  | unit {c : Char} {cs rest : List Char} (digits : fourHex? cs = some (c.toNat, rest)) :
    CharWritten c ('\\' :: 'u' :: cs) rest
  /-- A character beyond the first plane, as a pair of surrogates. -/
  | pair {c : Char} {cs more rest : List Char} (beyond : 0x10000 ≤ c.toNat)
    (high : fourHex? cs = some (0xd800 + (c.toNat - 0x10000) / 0x400, '\\' :: 'u' :: more))
    (low : fourHex? more = some (0xdc00 + (c.toNat - 0x10000) % 0x400, rest)) :
    CharWritten c ('\\' :: 'u' :: cs) rest

/-- The text starts with the characters of a string and its closing quote. -/
inductive TextWritten : List Char → List Char → List Char → Prop
  | close {rest : List Char} : TextWritten [] ('"' :: rest) rest
  | char {c : Char} {text cs more rest : List Char} (first : CharWritten c cs more)
    (later : TextWritten text more rest) : TextWritten (c :: text) cs rest

mutual

/-- The text starts with a value. -/
inductive Written : Document → List Char → List Char → Prop
  | null {rest : List Char} : Written .null ('n' :: 'u' :: 'l' :: 'l' :: rest) rest
  | yes {rest : List Char} : Written (.bool true) ('t' :: 'r' :: 'u' :: 'e' :: rest) rest
  | no {rest : List Char} : Written (.bool false) ('f' :: 'a' :: 'l' :: 's' :: 'e' :: rest) rest
  | numeral {n : Numeral} {rest : List Char} : Written (.numeral n) (n.chars ++ rest) rest
  | text {s : String} {cs rest : List Char} (chars : TextWritten s.toList cs rest) :
    Written (.text s) ('"' :: cs) rest
  | array {items : List Document} {cs rest : List Char} (content : ItemsWritten true items cs rest) :
    Written (.array items) ('[' :: cs) rest
  | object {members : List (String × Document)} {cs rest : List Char}
    (content : MembersWritten true members cs rest) : Written (.object members) ('{' :: cs) rest

/-- The text starts with the items that are left and a closing bracket. A comma stands before every
item but the first of an array. -/
inductive ItemsWritten : Bool → List Document → List Char → List Char → Prop
  | close {first : Bool} {cs rest : List Char} (blanks : Blanks cs (']' :: rest)) :
    ItemsWritten first [] cs rest
  | first {v : Document} {items : List Document} {cs start after rest : List Char}
    (blanks : Blanks cs start) (item : Written v start after)
    (next : ItemsWritten false items after rest) : ItemsWritten true (v :: items) cs rest
  | later {v : Document} {items : List Document} {cs more start after rest : List Char}
    (comma : Blanks cs (',' :: more)) (blanks : Blanks more start) (item : Written v start after)
    (next : ItemsWritten false items after rest) : ItemsWritten false (v :: items) cs rest

/-- The text starts with a name, a colon and a value. -/
inductive MemberWritten : String → Document → List Char → List Char → Prop
  | member {name : String} {v : Document} {cs more after start rest : List Char}
    (chars : TextWritten name.toList cs more) (colon : Blanks more (':' :: after))
    (blanks : Blanks after start) (value : Written v start rest) :
    MemberWritten name v ('"' :: cs) rest

/-- The text starts with the members that are left and a closing brace. A comma stands before every
member but the first of an object. -/
inductive MembersWritten : Bool → List (String × Document) → List Char → List Char → Prop
  | close {first : Bool} {cs rest : List Char} (blanks : Blanks cs ('}' :: rest)) :
    MembersWritten first [] cs rest
  | first {name : String} {v : Document} {members : List (String × Document)}
    {cs start after rest : List Char} (blanks : Blanks cs start)
    (member : MemberWritten name v start after) (next : MembersWritten false members after rest) :
    MembersWritten true ((name, v) :: members) cs rest
  | later {name : String} {v : Document} {members : List (String × Document)}
    {cs more start after rest : List Char} (comma : Blanks cs (',' :: more))
    (blanks : Blanks more start) (member : MemberWritten name v start after)
    (next : MembersWritten false members after rest) :
    MembersWritten false ((name, v) :: members) cs rest

end

/-- The text writes the document and nothing else. -/
def Document.WrittenAs (v : Document) (text : String) : Prop :=
  ∃ start rest, Blanks text.toList start ∧ Written v start rest ∧ Blanks rest []

end JobPool.Json
