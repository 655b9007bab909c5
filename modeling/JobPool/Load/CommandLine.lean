import JobPool.Load.Arguments
import JobPool.Load.Parameter
import JobPool.Text.Terminal

/-!
The command line of a load run. An option is given as two words, or as one word with `=` between
its name and its value; a word that begins with a dash and goes on is never the value of the word
before it. What was given for an option as two words is judged when the next option begins or the
line ends, so a word that no option takes is reported before it. An option that asks for a notice
ends the reading.
-/

namespace JobPool.Load

/-- Why a text is not a number. -/
inductive NumberError where
  | empty
  | invalidDigit
  | tooLarge
  deriving DecidableEq, Repr

/-- The text that reports why a text is not a number. -/
def NumberError.message : NumberError → String
  | empty => "cannot parse integer from empty string"
  | invalidDigit => "invalid digit found in string"
  | tooLarge => "number too large to fit in target type"

/-- The number that digits continue; the first character that does not fit is reported. -/
def wordOfDigits (value : Nat) : List Char → Except NumberError UInt64
  | [] => .ok (UInt64.ofNat value)
  | c :: rest =>
    if !c.isDigit then .error .invalidDigit
    else
      let next := 10 * value + (c.toNat - '0'.toNat)
      if next < UInt64.size then wordOfDigits next rest else .error .tooLarge

/-- Reads a number: decimal digits, which a plus sign may precede. -/
def readWord (text : String) : Except NumberError UInt64 :=
  match text.toList with
  | [] => .error .empty
  | ['+'] => .error .invalidDigit
  | '+' :: digits => wordOfDigits 0 digits
  | digits => wordOfDigits 0 digits

/-- Why a command line does not lead to a run. -/
inductive UsageError where
  /-- It asks for a notice instead. -/
  | asksFor (notice : Notice)
  | unknown (text : String)
  | missingValue (parameter : Parameter)
  | repeated (parameter : Parameter)
  | invalidValue (parameter : Parameter) (text : String) (reason : NumberError)
  /-- The option of a notice takes no value. -/
  | unneededValue (notice : Notice) (text : String)
  deriving DecidableEq, Repr

namespace UsageError

/-- The report of an error. What was given on the command line is repeated as a terminal shows it,
so that it cannot steer the terminal on which the report is read. -/
def message : UsageError → String
  | asksFor notice => notice.text
  | unknown text => s!"error: unexpected argument '{Text.shown text}' found"
  | missingValue p => s!"error: a value is required for '{p.usage}' but none was supplied"
  | repeated p => s!"error: the argument '{p.usage}' cannot be used multiple times"
  | invalidValue p text reason =>
      s!"error: invalid value '{Text.shown text}' for '{p.usage}': {reason.message}"
  | unneededValue notice text =>
      s!"error: unexpected value '{Text.shown text}' for '--{notice.word}' found; "
        ++ "no more were expected"

/-- The characters of the first line. -/
def firstLine : List Char → List Char
  | [] => []
  | '\n' :: _ => []
  | '\r' :: '\n' :: _ => []
  | c :: rest => c :: firstLine rest

/-- The first line of the report. -/
def headline (e : UsageError) : String := .ofList (firstLine e.message.toList)

end UsageError

/-- A word of a command line. -/
inductive Token where
  /-- Only plain words follow. -/
  | separator
  | long (name : String) (value : Option String)
  | short (flag : Char)
  | plain (text : String)
  deriving DecidableEq, Repr

/-- A name, and a value if there is an equals sign. -/
def splitAtEquals (cs : List Char) : String × Option String :=
  let name := String.ofList (cs.takeWhile (· ≠ '='))
  match cs.dropWhile (· ≠ '=') with
  | [] => (name, none)
  | _ :: value => (name, some (.ofList value))

/-- What a word is, going by its dashes. -/
def Token.ofText (text : String) : Token :=
  match text.toList with
  | ['-', '-'] => .separator
  | '-' :: '-' :: rest => let (name, value) := splitAtEquals rest; .long name value
  | '-' :: flag :: _ => .short flag
  | _ => .plain text

namespace Arguments

/-- The arguments with a number, if the text is one. -/
def withWord (p : Parameter) (text : String) (put : UInt64 → Arguments) :
    Except UsageError Arguments :=
  match readWord text with
  | .ok n => .ok (put n)
  | .error reason => .error (.invalidValue p text reason)

/-- Gives a parameter the value that a text stands for. -/
def give (a : Arguments) (p : Parameter) (text : String) : Except UsageError Arguments :=
  match p with
  | .name => .ok { a with name := text }
  | .workers => withWord p text fun n => { a with workers := some n }
  | .queueCapacity => withWord p text fun n => { a with queueCapacity := some n }
  | .jobs => withWord p text fun n => { a with jobs := n }
  | .jobMillis => withWord p text fun n => { a with jobMillis := n }
  | .failEvery => withWord p text fun n => { a with failEvery := n }
  | .retries => withWord p text fun n => { a with retries := n }
  | .config => if text = "" then .error (.missingValue p) else .ok { a with config := some text }
  | .reportMillis => withWord p text fun n => { a with reportMillis := n }

end Arguments

/-- How far a command line was read. -/
structure CommandLine where
  arguments : Arguments
  given : List Parameter
  /-- The option that was begun as a word of its own, and its value once that was read. -/
  pending : Option (Parameter × Option String)
  /-- A separator was read. -/
  plainOnly : Bool

namespace CommandLine

/-- Nothing was read. -/
def start : CommandLine := ⟨.default, [], none, false⟩

/-- Judges what was given for a parameter. -/
def judge (s : CommandLine) (p : Parameter) (value : Option String) :
    Except UsageError CommandLine :=
  match value with
  | none => .error (.missingValue p)
  | some text =>
    if p ∈ s.given then .error (.repeated p)
    else (s.arguments.give p text).map fun a => { s with arguments := a, given := p :: s.given }

/-- Judges the option that is pending. -/
def settle (s : CommandLine) : Except UsageError CommandLine :=
  match s.pending with
  | none => .ok s
  | some (p, value) => { s with pending := none }.judge p value

/-- Gives way to a notice, unless what is pending is refused. -/
def giveWay (s : CommandLine) (notice : Notice) : Except UsageError CommandLine := do
  let _ ← s.settle
  .error (.asksFor notice)

/-- Reads one word. -/
def read (s : CommandLine) (text : String) : Except UsageError CommandLine :=
  if s.plainOnly then .error (.unknown text)
  else
    match Token.ofText text with
    | .separator => .ok { s with plainOnly := true }
    | .short flag =>
      match Notice.ofFlag? flag with
      | none => .error (.unknown ("-" ++ flag.toString))
      | some notice => s.giveWay notice
    | .plain text =>
      match s.pending with
      | some (p, none) => .ok { s with pending := some (p, some text) }
      | _ => .error (.unknown text)
    | .long name value =>
      match Parameter.ofWord? name, Notice.ofWord? name, value with
      | none, none, _ => .error (.unknown ("--" ++ name))
      | none, some notice, none => s.giveWay notice
      | none, some notice, some text => .error (.unneededValue notice text)
      | some p, _, none => do return { ← s.settle with pending := some (p, none) }
      | some p, _, some text => do (← s.settle).judge p (some text)

end CommandLine

/-- Reads the words of a command line. -/
def Arguments.ofWords (words : List String) : Except UsageError Arguments := do
  let line ← words.foldlM CommandLine.read .start
  return (← line.settle).arguments

end JobPool.Load
