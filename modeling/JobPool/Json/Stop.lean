/-!
Where and why the reading of a JSON text stops: the cause, and the place as the number of bytes that
have not been consumed. A place is reported as a line and a column, the column counting the bytes
consumed on that line.
-/

namespace JobPool.Json

/-- Why a text is not JSON. -/
inductive SyntaxError where
  | endInValue
  | endInArray
  | endInObject
  | endInText
  | badWord
  | badNumber
  | numberOutOfRange
  | badEscape
  | controlCharacter
  | loneSurrogate
  | endInSurrogatePair
  | expectedValue
  | expectedColon
  | expectedCommaInArray
  | expectedCommaInObject
  | keyNotText
  | commaAtEnd
  | charactersAtEnd
  | tooDeep
  deriving DecidableEq, Repr

/-- The text that reports a cause. -/
def SyntaxError.message : SyntaxError → String
  | endInValue => "EOF while parsing a value"
  | endInArray => "EOF while parsing a list"
  | endInObject => "EOF while parsing an object"
  | endInText => "EOF while parsing a string"
  | badWord => "expected ident"
  | badNumber => "invalid number"
  | numberOutOfRange => "number out of range"
  | badEscape => "invalid escape"
  | controlCharacter => "control character (\\u0000-\\u001F) found while parsing a string"
  | loneSurrogate => "lone leading surrogate in hex escape"
  | endInSurrogatePair => "unexpected end of hex escape"
  | expectedValue => "expected value"
  | expectedColon => "expected `:`"
  | expectedCommaInArray => "expected `,` or `]`"
  | expectedCommaInObject => "expected `,` or `\x7d`"
  | keyNotText => "key must be a string"
  | commaAtEnd => "trailing comma"
  | charactersAtEnd => "trailing characters"
  | tooDeep => "recursion limit exceeded"

/-- The number of bytes of a text. -/
def byteCount : List Char → Nat
  | [] => 0
  | c :: rest => c.utf8Size + byteCount rest

/-- A cause and the number of bytes not consumed when it showed. -/
structure Stop (ε : Type) where
  cause : ε
  remaining : Nat
  deriving DecidableEq, Repr

namespace Stop

/-- Everything before `rest` is consumed. -/
def after {ε : Type} (cause : ε) (rest : List Char) : Stop ε := ⟨cause, byteCount rest⟩

/-- The byte that comes next is consumed as well, if there is one. -/
def on {ε : Type} (cause : ε) (rest : List Char) : Stop ε := ⟨cause, byteCount rest - 1⟩

/-- The same place, another cause. -/
def map {ε δ : Type} (f : ε → δ) (s : Stop ε) : Stop δ := ⟨f s.cause, s.remaining⟩

end Stop

/-- A line, counted from one, and the bytes consumed on it. -/
structure Position where
  line : Nat
  column : Nat
  deriving DecidableEq, Repr

namespace Position

/-- The position after one more byte. -/
def next (p : Position) (b : UInt8) : Position :=
  if b = 10 then ⟨p.line + 1, 0⟩ else ⟨p.line, p.column + 1⟩

/-- The position after these bytes. -/
def ofBytes (bytes : List UInt8) : Position := bytes.foldl next ⟨1, 0⟩

/-- How a position stands at the end of a report. -/
def text (p : Position) : String := s!"at line {p.line} column {p.column}"

end Position

/-- The position of a stop in its text. -/
def Stop.position {ε : Type} (s : Stop ε) (text : String) : Position :=
  let bytes := text.toUTF8.toList
  Position.ofBytes (bytes.take (bytes.length - s.remaining))

end JobPool.Json
