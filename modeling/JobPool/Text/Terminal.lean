/-!
Text as a terminal shows it. An escape opens a sequence that steers the terminal instead of being
shown; a control that neither breaks the line nor goes to a tab stop leaves no trace. What stood
before a sequence and what stood after it are shown side by side.
-/

namespace JobPool.Text

/-- What a terminal takes the next character for. -/
inductive TerminalMode where
  /-- Text to show. -/
  | text
  /-- What an escape opens. -/
  | escape
  /-- The rest of an escape that a punctuation mark follows. -/
  | designation
  /-- A control sequence, as far as its final letter. -/
  | sequence
  /-- A title, as far as a bell. -/
  | title
  /-- The head of a message to a device, which ends at the first character from `bound` on. -/
  | head (bound : Nat)
  /-- The body of a message, as far as a string terminator. -/
  | message
  deriving DecidableEq, Repr

namespace TerminalMode

/-- A control that breaks the line or goes to a tab stop. -/
def isMove (c : Char) : Bool := c = '\t' || c = '\n' || c = '\x0c' || c = '\r'

/-- A character of text that is not a control, or one that moves the place of writing. -/
def isShown (c : Char) : Bool := (0x20 ≤ c.toNat && c.toNat ≠ 0x7f) || isMove c

/-- A character that can end a sequence, all of which are ASCII and not less than `low`. -/
def isFinal (low : Nat) (c : Char) : Bool := low ≤ c.toNat && c.toNat < 0x7f

/-- A character that has the byte of a string terminator in its encoding. The byte ends a message
even where it is a part of another character. -/
def isTerminator (c : Char) : Bool := (String.utf8EncodeChar c).contains 0x9c

/-- What a character opens right after an escape. -/
def opened (c : Char) : TerminalMode :=
  if c = '[' then sequence
  else if c = ']' then title
  else if c = 'P' then head 0x40
  else if c = 'X' || c = '^' || c = '_' then message
  else if isFinal 0x30 c then text
  else if isFinal 0x20 c then designation
  else escape

/-- What follows a character of a head. Parameters bring the end of the head nearer, and the marks
that may stand after them bring it nearer still. -/
def continued (bound : Nat) (c : Char) : TerminalMode :=
  if isFinal bound c then message
  else if isFinal 0x30 c then head 0x3c
  else if isFinal 0x20 c then head 0x30
  else head bound

/-- The mode after one character, and whether the character is shown. An escape starts anew in
every mode, and the two controls that cancel a sequence do so in every mode; a move in a short
sequence cancels it too, and is shown. -/
def step (mode : TerminalMode) (c : Char) : TerminalMode × Bool :=
  if c = '\x1b' then (escape, false)
  else if c = '\x18' || c = '\x1a' then (text, false)
  else
    match mode with
    | text => (text, isShown c)
    | escape => if isMove c then (text, true) else (opened c, false)
    | designation =>
      if isMove c then (text, true) else (if isFinal 0x30 c then text else designation, false)
    | sequence =>
      if isMove c then (text, true) else (if isFinal 0x40 c then text else sequence, false)
    | title => (if c = '\x07' then text else title, false)
    | head bound => (continued bound c, false)
    | message => (if isTerminator c then text else message, false)

/-- The characters that are shown, from a mode on. -/
def shown (mode : TerminalMode) : List Char → List Char
  | [] => []
  | c :: rest =>
    let (next, visible) := mode.step c
    if visible then c :: next.shown rest else next.shown rest

end TerminalMode

/-- A text as a terminal shows it. -/
def shown (s : String) : String := .ofList (TerminalMode.text.shown s.toList)

end JobPool.Text
