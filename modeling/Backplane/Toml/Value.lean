import Backplane.Number.Binary64

/-!
# Values of a document

A table keeps its entries in the order they were written, and remembers how it came to be: that
decides what may still be added to it.
-/
namespace Backplane.Toml

/-- How a table was written. -/
inductive Form where
  /-- As a value, between braces: nothing can be added. -/
  | closed
  /-- Under a header of its own, or as the whole document. -/
  | header
  /-- Only on the way to the header of another table. -/
  | implied
  /-- Only on the way to the key of a value. -/
  | dotted
  deriving DecidableEq, Repr

inductive Value where
  | text (s : String)
  | integer (n : Int)
  | float (x : Number.Binary64)
  | boolean (b : Bool)
  /-- A date, a time of day, or both. -/
  | moment
  /-- Items in order, written one by one under headers, or as a value. -/
  | array (headed : Bool) (items : List Value)
  | table (form : Form) (entries : List (String × Value))
  deriving Repr

/-- Named values in the order they were written. -/
abbrev Entries := List (String × Value)

end Backplane.Toml
