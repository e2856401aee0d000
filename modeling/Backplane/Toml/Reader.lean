/-!
# Readers

A reader takes characters off the front of a text and gives what they mean, or refuses. A reader
that refuses takes nothing, so another one can be tried at the same place. The number of characters
that are left is kept beside them, so that it need not be counted to see whether a reader took any.
-/
namespace Backplane.Toml

/-- What is left of a text. -/
structure Source where
  chars : List Char
  /-- How many characters are left. -/
  left : Nat
  left_eq : left = chars.length

namespace Source

/-- A whole text. -/
def ofList (chars : List Char) : Source := ⟨chars, chars.length, rfl⟩

/-- What is left behind some characters. -/
def drop (s : Source) (n : Nat) : Source := ⟨s.chars.drop n, s.left - n, by simp [s.left_eq]⟩

theorem chars_drop (s : Source) (n : Nat) : (s.drop n).chars = s.chars.drop n := rfl

end Source

/-- Reads a value off the front of a text. -/
abbrev Reader (α : Type) := StateT Source Option α

namespace Reader

/-- Any one character. -/
def next : Reader Char := fun s => s.chars.head?.map fun c => (c, s.drop 1)

/-- One character of a class. -/
def charOf (p : Char → Bool) : Reader Char := do
  let c ← next
  if p c then pure c else failure

/-- One given character. -/
def char (c : Char) : Reader Unit := do
  let _ ← charOf (· = c)

/-- A given text. -/
def literal (expected : List Char) : Reader Unit := fun s =>
  if expected.isPrefixOf s.chars then some ((), s.drop expected.length) else none

/-- The characters of a class at the front, all of them. -/
def charsOf (p : Char → Bool) : Reader (List Char) := fun s =>
  let taken := s.chars.takeWhile p
  some (taken, s.drop taken.length)

/-- The characters of a class at the front, at least one. -/
def run (p : Char → Bool) : Reader (List Char) := do
  let cs ← charsOf p
  if cs.isEmpty then failure else pure cs

/-- A given number of characters. -/
def count (n : Nat) : Reader (List Char) := fun s =>
  if n ≤ s.left then some (s.chars.take n, s.drop n) else none

/-- Nothing is left. -/
def ended : Reader Unit := fun s => if s.chars.isEmpty then some ((), s) else none

/-- What a reader reads, if it does not refuse. -/
def option {α : Type} (item : Reader α) : Reader (Option α) :=
  (do let a ← item; pure (some a)) <|> pure none

/-- Items one after the other, until one is refused or takes nothing. -/
def many {α : Type} (item : Reader α) (s : Source) : Option (List α × Source) :=
  match item s with
  | none => some ([], s)
  | some (a, rest) =>
    if rest.left < s.left then
      (many item rest).map fun (as, rest) => (a :: as, rest)
    else some ([], s)
termination_by s.left

/-- What is read of a whole text. -/
def all {α : Type} (item : Reader α) (text : List Char) : Option α :=
  (item (.ofList text)).bind fun (a, rest) => if rest.chars.isEmpty then some a else none

end Reader

/-! ## Blanks, comments and the ends of lines -/

open Reader

/-- Blanks within a line. -/
def isBlank (c : Char) : Bool := c = ' ' || c = '\t'

/-- What may stand in a comment: anything but control characters other than the tab. -/
def isShown (c : Char) : Bool := c = '\t' || (0x20 ≤ c.toNat && c.toNat ≠ 0x7F)

def blanks : Reader Unit := do
  let _ ← charsOf isBlank

/-- A line feed, with or without a carriage return before it. -/
def newline : Reader Unit := char '\n' <|> literal ['\r', '\n']

def comment : Reader Unit := do
  char '#'
  let _ ← charsOf isShown

/-- What may follow on a line that is complete. -/
def lineEnd : Reader Unit := do
  blanks
  let _ ← option comment
  newline <|> ended

/-- Blanks, the end of a line, or a comment with the end of its line. -/
def filler : Reader Unit :=
  (do let _ ← run isBlank) <|> newline <|> (do comment; newline)

/-- Blanks, ends of lines and comments, as many as there are. -/
def gap : Reader Unit := do
  let _ ← many filler

end Backplane.Toml
