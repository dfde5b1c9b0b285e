import Lanewise.Number.Reader
import Lanewise.Storage
import Lanewise.Text.Blank
import Lanewise.Text.Control
import Lanewise.Text.Quoted

namespace Lanewise.Command

/-- A wrong use of the command line. -/
inductive UsageError where
  | misuse
  /-- A value that its option does not take, with the reason if there is more to say. -/
  | invalidValue (value option placeholder : String) (reason : Option String)
  deriving DecidableEq, Repr

/-- The value is shown without what would steer the terminal. -/
def UsageError.message : UsageError → String
  | .misuse => ""
  | .invalidValue value option placeholder reason =>
    "error: invalid value '" ++ Text.withoutControls value ++ "' for '--" ++ option ++ " <" ++
      placeholder ++ ">'" ++
      match reason with
      | some reason => ": " ++ reason
      | none => ""

/-- The text before and behind the first `mark`. -/
def splitAt? (mark : Char) (s : String) : Option (String × String) :=
  let chars := s.toList
  if chars.contains mark then
    some (String.ofList (chars.takeWhile (· != mark)),
      String.ofList ((chars.dropWhile (· != mark)).drop 1))
  else none

def readValue (s : String) : Except String Float32 :=
  match readFloat (Text.trim s) with
  | .ok value => .ok value
  | .error fault => .error (Text.quote s ++ ": " ++ fault.message)

/-- A name and a list of numbers, as in `color=1,0.5,0`. -/
def readAssignment (s : String) : Except String (String × List Float32) :=
  match splitAt? '=' s with
  | none => .error ("expected NAME=VALUES, got " ++ Text.quote s)
  | some (name, values) => do
    let values ← ((values.toList.splitOn ',').map String.ofList).mapM readValue
    return (Text.trim name, values)

def readBound (s : String) : Except String Nat :=
  match readIndex (Text.trim s) with
  | .ok n => .ok n
  | .error fault => .error (Text.quote s ++ ": " ++ fault.message)

/-- A start and a size, as in `0:4`. -/
def readRange (s : String) : Except String (Nat × Nat) :=
  match splitAt? ':' s with
  | none => .error ("expected START:SIZE, got " ++ Text.quote s)
  | some (start, size) => return (← readBound start, ← readBound size)

def readStage? (s : String) : Option Stage :=
  if s = "vertex" then some .vertex else if s = "fragment" then some .fragment else none

/-- What the value of an argument has to be. -/
inductive Kind where
  | path
  | stage
  | assignment
  | range
  deriving DecidableEq, Repr

/-- Something that may be given on the command line. -/
structure Argument where
  name : String
  placeholder : String
  kind : Kind
  /-- Given without a name, by its place. -/
  positional : Bool := false
  repeatable : Bool := false
  deriving DecidableEq, Repr

/-- Whether an argument takes a value. -/
def Argument.check (a : Argument) (value : String) : Except UsageError Unit :=
  match a.kind with
  | .path => if value = "" then .error .misuse else .ok ()
  | .stage =>
    if value = "" then .error .misuse
    else if (readStage? value).isSome then .ok ()
    else .error (.invalidValue value a.name a.placeholder none)
  | .assignment => refuse (readAssignment value)
  | .range => refuse (readRange value)
where
  refuse {α : Type} : Except String α → Except UsageError Unit
    | .ok _ => .ok ()
    | .error reason => .error (.invalidValue value a.name a.placeholder (some reason))

/-- A value with the argument that it is for. -/
structure Given where
  argument : Argument
  value : String
  deriving DecidableEq, Repr

/-- The command line so far: the values accepted, and an argument whose values are judged when the
next one begins. -/
structure Scan where
  given : List Given := []
  pending : Option (Argument × List String) := none
  onlyPositional : Bool := false
  deriving DecidableEq, Repr

namespace Scan

def has (scan : Scan) (a : Argument) : Bool := scan.given.any (·.argument = a)

/-- Judges the values of an argument. -/
def accept (scan : Scan) (a : Argument) (values : List String) : Except UsageError Scan := do
  if values.isEmpty || (scan.has a && !a.repeatable) then throw .misuse
  values.forM a.check
  return { scan with given := scan.given ++ values.map (⟨a, ·⟩), pending := none }

/-- Judges the values that wait for it. -/
def settle (scan : Scan) : Except UsageError Scan :=
  match scan.pending with
  | none => .ok scan
  | some (a, values) => { scan with pending := none }.accept a values

/-- A value for the positional argument. One that is there already takes another value only if it
may be repeated. -/
def addPositional (arguments : List Argument) (scan : Scan) (value : String) :
    Except UsageError Scan :=
  match arguments.find? (·.positional), scan.pending with
  | none, _ => throw .misuse
  | some p, some (a, values) =>
    if a = p then
      if p.repeatable then .ok { scan with pending := some (p, values ++ [value]) }
      else throw .misuse
    else start p
  | some p, none => start p
where
  start (p : Argument) : Except UsageError Scan := do
    if scan.has p && !p.repeatable then throw .misuse
    return { ← scan.settle with pending := some (p, [value]) }

/-- A value without a name: for the option right before it, or else by its place. -/
def addValue (arguments : List Argument) (scan : Scan) (value : String) : Except UsageError Scan :=
  match scan.onlyPositional, scan.pending with
  | false, some (a, []) => .ok { scan with pending := some (a, [value]) }
  | _, _ => scan.addPositional arguments value

/-- An option, with its value if it has one attached. -/
def addOption (arguments : List Argument) (scan : Scan) (name : String) (value : Option String) :
    Except UsageError Scan :=
  match arguments.find? fun a => !a.positional && a.name = name with
  | none => throw .misuse
  | some a => do
    let scan ← scan.settle
    match value with
    | some value => scan.accept a [value]
    | none => return { scan with pending := some (a, []) }

def addWord (arguments : List Argument) (scan : Scan) (word : String) : Except UsageError Scan :=
  if scan.onlyPositional then scan.addValue arguments word
  else
    match word.toList with
    | ['-', '-'] => .ok { scan with onlyPositional := true }
    | '-' :: '-' :: rest =>
      match splitAt? '=' (String.ofList rest) with
      | some (name, value) => scan.addOption arguments name (some value)
      | none => scan.addOption arguments (String.ofList rest) none
    | '-' :: _ :: _ => throw .misuse
    | _ => scan.addValue arguments word

def values (scan : Scan) (a : Argument) : List String :=
  (scan.given.filter (·.argument = a)).map (·.value)

end Scan

/-- Reads all words of a command line. -/
def scanWords (arguments : List Argument) (words : List String) : Except UsageError Scan := do
  (← words.foldlM (Scan.addWord arguments) {}).settle

end Lanewise.Command
