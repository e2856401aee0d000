import Backplane.Toml.Expression

/-!
# Documents

A document is a list of lines. Headers open tables one after the other; the keys on the lines
between two headers belong to the table of the first.
-/
namespace Backplane.Toml
open Reader

inductive Line where
  /-- Nothing, or a comment. -/
  | blank
  /-- Opens a table. -/
  | table (path : List String) (key : String)
  /-- Opens another table of an array. -/
  | item (path : List String) (key : String)
  | assignment (path : List String) (key : String) (value : Value)
  deriving Repr

/-- One line with its end. -/
def line : Reader Line :=
  (do newline; pure .blank)
  <|> (do comment; newline <|> ended; pure .blank)
  <|> (do
    literal ['[', '[']
    let (path, key) ← keyPath
    literal [']', ']']
    lineEnd
    pure (.item path key))
  <|> (do
    char '['
    let (path, key) ← keyPath
    char ']'
    lineEnd
    pure (.table path key))
  <|> (do
    let (path, key, value) ← assignment (value (depthLimit - 1))
    lineEnd
    pure (.assignment path key value))

/-- The lines of a document; a byte order mark in front of them means nothing. -/
def lines : Reader (List Line) := do
  let _ ← option (char '\uFEFF')
  blanks
  many do
    let l ← line
    blanks
    pure l

/-! ## From lines to tables -/

/-- The header that the current lines are under. -/
inductive Heading where
  | none
  | table (path : List String) (key : String)
  | item (path : List String) (key : String)
  deriving Repr

/-- What is known at a line of a document. -/
structure Draft where
  /-- All tables that are complete. -/
  root : Entries
  heading : Heading
  /-- The entries under the heading. -/
  entries : Entries
  deriving Repr

namespace Draft

def empty : Draft := ⟨[], .none, []⟩

/-- Completes the table under the heading. -/
def close (d : Draft) : Option Entries :=
  let table : Value := .table .header d.entries
  match d.heading with
  | .none => some d.entries
  | .table path key => (d.root.change .header (Entries.addTable key table) path .header).map (·.2)
  | .item path key => (d.root.change .header (Entries.addItem key table) path .header).map (·.2)

/-- Takes in a line. -/
def add (d : Draft) : Line → Option Draft
  | .blank => some d
  | .assignment path key value => do
    let entries ← d.entries.define path key value .header
    pure { d with entries }
  | .table path key => do
    let root ← d.close
    let (children, root) ← root.change .header (Entries.takeImplied key) path .header
    pure ⟨root, .table path key, children⟩
  | .item path key => do
    let root ← d.close
    pure ⟨root, .item path key, []⟩

end Draft

/-- The entries of a document. -/
def parse (document : String) : Option Entries := do
  let lines ← Reader.all lines document.toList
  let draft ← lines.foldlM Draft.add .empty
  draft.close

end Backplane.Toml
