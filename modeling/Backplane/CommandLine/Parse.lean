import Backplane.CommandLine.Given

/-!
# Reading command lines

Arguments are taken from left to right. A value is only looked at when the next argument is taken
in or the scope ends, and an argument that may not be there is refused before that. A scope behind
another one is read to its end first, so what is wrong there is reported first.
-/
namespace Backplane.CommandLine

/-- What is known within a scope. -/
structure State where
  given : Given := {}
  /-- The argument taken last, with its value as soon as it is there. -/
  pending : Option (Valued × Option String) := none
  /-- The arguments without a name that are still to come. -/
  positionals : List Valued
  /-- Whether everything that follows is an argument without a name. -/
  trailing : Bool := false
  deriving DecidableEq, Repr

namespace State

/-- The start of a scope. -/
def start (scope : Scope) : State := { positionals := scope.positionals }

/-- Whether the value of an option is still to come. -/
def awaits (s : State) : Bool :=
  match s.pending with
  | some (_, none) => true
  | _ => false

/-- Takes in the argument that is pending. -/
def settle (s : State) : Except Refusal State :=
  match s.pending with
  | none => .ok s
  | some (_, none) => .error .invalidValue
  | some (v, some text) => do
    let given ← s.given.put v text
    pure { s with given, pending := none }

/-- Takes in a flag. -/
def mark (s : State) (scope : Scope) (f : Flag) : Except Refusal State := do
  let s ← s.settle
  let given ← s.given.mark scope f
  pure { s with given }

/-- Takes in an option with its value. -/
def put (s : State) (v : Valued) (text : String) : Except Refusal State := do
  let s ← s.settle
  let given ← s.given.put v text
  pure { s with given }

/-- Takes an option whose value is to come. -/
def await (s : State) (v : Valued) : Except Refusal State := do
  let s ← s.settle
  pure { s with pending := some (v, none) }

/-- Takes an argument without a name. -/
def takePositional (s : State) (scope : Scope) (text : String) : Except Refusal State :=
  match s.positionals with
  | v :: positionals => do
    let s ← s.settle
    pure { s with pending := some (v, some text), positionals }
  | [] =>
    if !scope.hasChildren || (s.trailing && scope.leadsOn text) then .error .unknownArgument
    else .error .invalidSubcommand

/-- Takes an option by its long name, with the value behind an equals sign. -/
def takeLong (s : State) (scope : Scope) (name : String) (value : Option String) :
    Except Refusal State :=
  match scope.optionNamed? name, value with
  | none, _ => .error .unknownArgument
  | some (.flag f), none => s.mark scope f
  | some (.flag _), some _ => .error .tooManyValues
  | some (.valued v), none => s.await v
  | some (.valued v), some text => s.put v text

/-- Takes options by their letters: flags, and maybe an option with its value at the end. -/
def takeLetters (s : State) (scope : Scope) : List Char → Except Refusal State
  | [] => .ok s
  | letter :: rest =>
    match scope.optionLetter? letter with
    | none => .error .unknownArgument
    | some (.flag f) => do
      let s ← s.mark scope f
      s.takeLetters scope rest
    | some (.valued v) =>
      match rest with
      | [] => s.await v
      | '=' :: value => s.put v (String.ofList value)
      | value => s.put v (String.ofList value)

/-- Splits a long option at the first equals sign. -/
def splitLong (cs : List Char) : String × Option String :=
  let name := cs.takeWhile (· ≠ '=')
  match cs.dropWhile (· ≠ '=') with
  | [] => (String.ofList name, none)
  | _ :: value => (String.ofList name, some (String.ofList value))

/-- Takes an argument that leads to no other scope. -/
def take (s : State) (scope : Scope) (arg : String) : Except Refusal State :=
  if s.trailing then s.takePositional scope arg
  else
    match arg.toList with
    | ['-', '-'] => .ok { s with trailing := true }
    | '-' :: '-' :: long => s.takeLong scope (splitLong long).1 (splitLong long).2
    | '-' :: letter :: letters => s.takeLetters scope (letter :: letters)
    | _ =>
      match s.pending with
      | some (v, none) => .ok { s with pending := some (v, some arg) }
      | _ => s.takePositional scope arg

/-- Ends a scope, behind which another one was read or not. -/
def finish (s : State) (scope : Scope) (inner : Option (Scope × Given)) :
    Except Refusal (Scope × Given) := do
  let s ← s.settle
  if scope.hasChildren && inner.isNone then
    throw (if s.given.seen.isEmpty then .nothingGiven scope else .missingSubcommand)
  if !scope.required.all fun v => s.given.has (.valued v) then throw .missingArgument
  match inner with
  | some (leaf, given) => pure (leaf, s.given.merge given)
  | none => pure (scope, s.given)

end State

/-- The answer to the words behind a request for help. -/
def helpOn : Scope → List String → Refusal
  | scope, [] => .help scope
  | scope, word :: rest =>
    if scope.hasChildren && word = Scope.helpWord then
      if rest.isEmpty then .help scope else .invalidSubcommand
    else
      match scope.children.lookup word with
      | some child => helpOn child rest
      | none => .invalidSubcommand

/-- Reads the rest of a command line: the scope it ends in, and what was given. -/
def read : Scope → State → List String → Except Refusal (Scope × Given)
  | scope, s, [] => s.finish scope none
  | scope, s, arg :: rest =>
    let word := if s.trailing || s.awaits then none else scope.children.lookup arg
    if scope.hasChildren && !s.trailing && !s.awaits && arg = Scope.helpWord then
      .error (helpOn scope rest)
    else
      match word with
      | some child => do
        let inner ← read child (.start child) rest
        s.finish scope (some inner)
      | none => do
        let s ← s.take scope arg
        read scope s rest

/-- What a command line asks for. -/
structure Parsed where
  command : Command
  /-- How often more log lines were asked for. -/
  verbose : Nat
  deriving DecidableEq, Repr

/-- Reads a command line. -/
def parse (args : List String) : Except Refusal Parsed := do
  let (scope, given) ← read .top (.start .top) args
  match given.command? scope with
  | some command => pure ⟨command, given.verbose.getD 0⟩
  | none => throw .missingArgument

end Backplane.CommandLine
