import Backplane.Toml.Moment
import Backplane.Toml.Number
import Backplane.Toml.Table
import Backplane.Toml.Text

/-!
# Keys and values as they are written

A key is bare or a text on one line; points join keys to a path. Values nest to a fixed depth.
-/
namespace Backplane.Toml
open Reader

/-- Values nest less deep than this, and paths have fewer keys. -/
def depthLimit : Nat := 80

/-- What may stand in a bare key. -/
def isBare (c : Char) : Bool := c.isAlphanum || c = '_' || c = '-'

/-- A bare key. -/
def bareKey : Reader String := do pure (String.ofList (← run isBare))

/-- One key of a path, with blanks around it. -/
def oneKey : Reader String := do
  blanks
  let key ← basicText <|> literalText <|> bareKey
  blanks
  pure key

/-- A path of keys: the way to a table, and a key in it. -/
def keyPath : Reader (List String × String) := do
  let first ← oneKey
  let rest ← many (do char '.'; oneKey)
  if rest.length + 1 < depthLimit then
    match (first :: rest).getLast? with
    | some key => pure ((first :: rest).dropLast, key)
    | none => failure
  else failure

/-- A value that holds no other ones. -/
def scalar : Reader Value :=
  (do pure (.text (← text)))
  <|> (do moment; pure .moment)
  <|> (do pure (.float (← float)))
  <|> (do pure (.integer (← integer)))
  <|> (do literal "true".toList; pure (.boolean true))
  <|> (do literal "false".toList; pure (.boolean false))

/-- Items between brackets, with commas between them and maybe one behind the last. -/
def array (item : Reader Value) : Reader Value := do
  let one : Reader Value := do
    gap
    let value ← item
    gap
    pure value
  char '['
  let items ← option do
    let first ← one
    let rest ← many (do char ','; one)
    let _ ← option (char ',')
    pure (first :: rest)
  gap
  char ']'
  pure (.array false (items.getD []))

/-- A key path, an equals sign and a value. -/
def assignment (item : Reader Value) : Reader (List String × String × Value) := do
  let (path, key) ← keyPath
  char '='
  blanks
  let value ← item
  pure (path, key, value)

/-- The table of some assignments. -/
def inlineTable? (assignments : List (List String × String × Value)) : Option Value :=
  let entries := assignments.foldlM
    (fun (entries : Entries) (path, key, value) => entries.define path key value .closed) []
  entries.map (.table .closed)

/-- Assignments between braces on one line, with commas between them. -/
def inlineTable (item : Reader Value) : Reader Value := do
  let one : Reader (List String × String × Value) := do
    let a ← assignment item
    blanks
    pure a
  char '\x7b'
  let assignments ← option do
    let first ← one
    let rest ← many (do char ','; one)
    pure (first :: rest)
  blanks
  char '\x7d'
  match inlineTable? (assignments.getD []) with
  | some table => pure table
  | none => failure

/-- A value with at most `depth` levels of arrays and tables. -/
def value : (depth : Nat) → Reader Value
  | 0 => scalar
  | depth + 1 => scalar <|> array (value depth) <|> inlineTable (value depth)

end Backplane.Toml
