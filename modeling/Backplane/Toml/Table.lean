import Backplane.Toml.Value

/-!
# Tables

A path of keys leads from a table to another one within it. Tables that are missing on the way are
made; whether a table that is there can be entered is up to how it was written.
-/
namespace Backplane.Toml

/-- What a path is part of. -/
inductive Route where
  /-- A header: any table but one written as a value can be entered. -/
  | header
  /-- A key of a value: a table with a header of its own can not be entered either. -/
  | key
  deriving DecidableEq, Repr

/-- The form of the tables made on the way. -/
def Route.made : Route → Form
  | .header => .implied
  | .key => .dotted

/-- Whether a table can be entered. -/
def Route.enters (route : Route) : Form → Bool
  | .closed => false
  | .header => route = .header
  | .implied | .dotted => true

namespace Entries

/-- Puts another value under a key that is there. -/
def replace (key : String) (value : Value) (entries : Entries) : Entries :=
  entries.map fun e => if e.1 = key then (key, value) else e

/-- Leaves out a key. -/
def without (key : String) (entries : Entries) : Entries :=
  entries.filter fun e => e.1 ≠ key

/-- Changes the table at the end of a path. In an array of tables the last one is meant. -/
def change {α : Type} (route : Route) (f : Form → Entries → Option (α × Entries)) :
    (path : List String) → Form → Entries → Option (α × Entries)
  | [], form, entries => f form entries
  | key :: path, _, entries =>
    match entries.lookup key with
    | none => do
      let (a, made) ← change route f path route.made []
      pure (a, entries ++ [(key, .table route.made made)])
    | some (.table form children) => do
      guard (route.enters form)
      let (a, changed) ← change route f path form children
      pure (a, replace key (.table form changed) entries)
    | some (.array true items) =>
      match items.getLast? with
      | some (.table form children) => do
        let (a, changed) ← change route f path form children
        pure (a, replace key (.array true (items.dropLast ++ [.table form changed])) entries)
      | _ => none
    | some _ => none

/-- Defines a key of a table, behind a path. Where there is a path, the table at its end must have
been made by such paths; where there is none, it must not. -/
def define (path : List String) (key : String) (value : Value) (form : Form) (entries : Entries) :
    Option Entries :=
  let put (form : Form) (entries : Entries) : Option (Unit × Entries) :=
    if decide (form = .dotted) = path.isEmpty then none
    else if (entries.lookup key).isSome then none
    else some ((), entries ++ [(key, value)])
  (change .key put path form entries).map (·.2)

/-- Adds a table to an array of tables, which is made if it is missing. -/
def addItem (key : String) (table : Value) (_ : Form) (entries : Entries) :
    Option (Unit × Entries) :=
  match entries.lookup key with
  | none => some ((), entries ++ [(key, .array true [table])])
  | some (.array true items) => some ((), replace key (.array true (items ++ [table])) entries)
  | some _ => none

/-- Adds a table. -/
def addTable (key : String) (table : Value) (_ : Form) (entries : Entries) :
    Option (Unit × Entries) :=
  if (entries.lookup key).isSome then none else some ((), entries ++ [(key, table)])

/-- Takes out a table that was only implied, and gives what is in it; nothing if there is none. -/
def takeImplied (key : String) (_ : Form) (entries : Entries) : Option (Entries × Entries) :=
  match entries.lookup key with
  | none => some ([], entries)
  | some (.table .implied children) => some (children, without key entries)
  | some _ => none

end Entries
end Backplane.Toml
