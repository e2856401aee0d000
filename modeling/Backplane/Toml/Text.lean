import Backplane.Text.Numeral
import Backplane.Toml.Reader

/-!
# Texts in a document

A text is written basic, with escapes, or literal, without them, each on one line or as a block.
A block starts and ends with three quotes; a line feed behind the first ones does not count, and up
to two quotes may stand just before the last ones.
-/
namespace Backplane.Toml
open Reader

/-- What stands for itself in a basic text. -/
def isBasic (c : Char) : Bool := isShown c && c ≠ '"' && c ≠ '\\'

/-- What stands for itself in a literal text. -/
def isLiteral (c : Char) : Bool := isShown c && c ≠ '\''

/-- A character by its code, in a given number of hexadecimal digits. -/
def coded (places : Nat) : Reader Char := do
  let digits ← count places
  match Text.digits 16 Text.wordLimit 0 digits with
  | .ok n => if n.isValidChar then pure (Char.ofNat n) else failure
  | .error _ => failure

/-- A character written with a backslash. -/
def escaped : Reader Char := do
  char '\\'
  match ← next with
  | 'b' => pure '\x08'
  | 't' => pure '\t'
  | 'n' => pure '\n'
  | 'f' => pure '\x0c'
  | 'r' => pure '\r'
  | '"' => pure '"'
  | '\\' => pure '\\'
  | 'u' => coded 4
  | 'U' => coded 8
  | _ => failure

/-- A basic text on one line. -/
def basicText : Reader String := do
  char '"'
  let parts ← many (run isBasic <|> (do pure [← escaped]))
  char '"'
  pure (String.ofList parts.flatten)

/-- A literal text on one line. -/
def literalText : Reader String := do
  char '\''
  let cs ← charsOf isLiteral
  char '\''
  pure (String.ofList cs)

/-! ## Blocks -/

/-- One or two quotes within a block. -/
def innerQuotes (quote : Char) : Reader (List Char) := do
  let quotes ← charsOf (· = quote)
  if quotes.length = 1 ∨ quotes.length = 2 then pure quotes else failure

/-- The quotes that close a block, and those of them that belong to its text. -/
def closingQuotes (quote : Char) : Reader (List Char) := do
  let quotes ← charsOf (· = quote)
  if 3 ≤ quotes.length ∧ quotes.length ≤ 5 then pure (quotes.drop 3) else failure

/-- A backslash at the end of a line drops it, and all blanks and ends of lines behind it. -/
def joinedLines : Reader Unit := do
  char '\\'
  blanks
  newline
  let _ ← many ((do let _ ← run isBlank) <|> newline)

/-- A block of parts between quotes. -/
def block (quote : Char) (part : Reader (List Char)) : Reader String := do
  literal [quote, quote, quote]
  let _ ← option newline
  let parts ← many (part <|> (do newline; pure ['\n']) <|> innerQuotes quote)
  let last ← closingQuotes quote
  pure (String.ofList (parts.flatten ++ last))

/-- A basic text as a block. -/
def basicBlock : Reader String :=
  block '"' (run isBasic <|> (do joinedLines; pure []) <|> do pure [← escaped])

/-- A literal text as a block. -/
def literalBlock : Reader String :=
  block '\'' (run isLiteral)

/-- A text in any form. -/
def text : Reader String :=
  basicBlock <|> basicText <|> literalBlock <|> literalText

end Backplane.Toml
