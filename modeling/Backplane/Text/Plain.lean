/-!
# Plain text

What a terminal would show of a text: control sequences are left out, whole, and so are control
characters that lay nothing out. A sequence that is never ended hides the rest of the text. White
space inside a sequence is shown, and what follows it is shown as well, up to the next character
that is hidden on its own: there the sequence goes on.
-/
namespace Backplane.Text

/-- The part of a control sequence that a character is read in. -/
inductive Control where
  /-- No sequence: the character is text. -/
  | text
  /-- Behind the escape character. -/
  | escape
  /-- Behind the escape character and marks. -/
  | designation
  /-- The parameters of a sequence that ends in a letter. -/
  | parameters
  /-- The head of a string for a device. -/
  | device
  /-- The head of a string for a device, behind its parameters. -/
  | deviceParameters
  /-- The head of a string for a device, behind marks. -/
  | deviceMarks
  /-- A string, which a terminator ends. -/
  | string
  /-- A command to the system, which a bell ends. -/
  | command
  deriving DecidableEq, Repr

/-- Whether the character is white space that lays text out. -/
def isLayout (c : Char) : Bool := c = '\t' || c = '\n' || c = '\x0c' || c = '\r'

/-- Whether the character is a mark in a sequence. -/
def isMark (c : Char) : Bool := ' ' ≤ c && c ≤ '/'

/-- Whether the character is a digit or a separator of parameters. -/
def isParameter (c : Char) : Bool := '0' ≤ c && c ≤ ';'

/-- Whether the character tells a private use of parameters. -/
def isPrivate (c : Char) : Bool := '<' ≤ c && c ≤ '?'

/-- Whether the character is a letter that can end a sequence. -/
def isFinal (c : Char) : Bool := '@' ≤ c && c ≤ '~'

/-- Whether the character has a byte that ends a string. -/
def hasTerminator (c : Char) : Bool :=
  0x7F < c.toNat && (String.singleton c).toUTF8.toList.contains 0x9C

namespace Control

/-- What the character behind the escape character begins. -/
def begun (c : Char) : Control :=
  if isMark c then .designation
  else if c = '[' then .parameters
  else if c = ']' then .command
  else if c = 'P' then .device
  else if c = 'X' || c = '^' || c = '_' then .string
  else if '0' ≤ c && c ≤ '~' then .text
  else .escape

/-- The part that follows a hidden character. -/
def next (k : Control) (c : Char) : Control :=
  if c = '\x1b' then .escape
  else if c = '\x18' || c = '\x1a' then .text
  else
    match k with
    | .text => .text
    | .escape => begun c
    | .designation => if '0' ≤ c && c ≤ '~' then .text else .designation
    | .parameters => if isFinal c then .text else .parameters
    | .device =>
      if isMark c then .deviceMarks
      else if isParameter c || isPrivate c then .deviceParameters
      else if isFinal c then .string
      else .device
    | .deviceParameters =>
      if isMark c then .deviceMarks
      else if isPrivate c || isFinal c then .string
      else .deviceParameters
    | .deviceMarks => if '0' ≤ c && c ≤ '~' then .string else .deviceMarks
    | .string => if hasTerminator c then .text else .string
    | .command => if c = '\x07' then .text else .command

/-- Whether white space is shown in this part. -/
def showsLayout : Control → Bool
  | .text => true
  | .escape => true
  | .designation => true
  | .parameters => true
  | .device => false
  | .deviceParameters => false
  | .deviceMarks => false
  | .string => false
  | .command => false

end Control

/-- How far a text is read: the part of a sequence, and whether the sequence rests. -/
structure Reading where
  control : Control
  resting : Bool
  deriving DecidableEq, Repr

namespace Reading

/-- Nothing is read yet. -/
def start : Reading := ⟨.text, false⟩

/-- Whether the character is shown. -/
def shows (r : Reading) (c : Char) : Bool :=
  if isLayout c then r.resting || r.control.showsLayout
  else (r.resting || r.control = .text) && ' ' ≤ c && c != '\x7f'

/-- Reads one character. A shown one beyond ASCII ends a sequence that rests. -/
def step (r : Reading) (c : Char) : Reading :=
  if !r.shows c then ⟨r.control.next c, false⟩
  else if c.toNat ≤ 0x7F then ⟨r.control, true⟩
  else start

end Reading

/-- What is shown of a text. -/
def plain (s : String) : String :=
  (s.toList.foldl (fun (r, shown) c => (r.step c, if r.shows c then shown.push c else shown))
    (Reading.start, "")).2

end Backplane.Text
