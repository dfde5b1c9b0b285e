import Lanewise.Command.Basic
import Lanewise.Command.Table
import Lanewise.Object.Format
import Lanewise.Program

namespace Lanewise

/-- Why a file cannot be read. -/
inductive FileFault where
  | notFound
  | denied
  | notDirectory
  | isDirectory
  | nameTooLong
  | notText
  deriving DecidableEq, Repr

def FileFault.message : FileFault → String
  | .notFound => "No such file or directory (os error 2)"
  | .denied => "Permission denied (os error 13)"
  | .notDirectory => "Not a directory (os error 20)"
  | .isDirectory => "Is a directory (os error 21)"
  | .nameTooLong => "File name too long (os error 36)"
  | .notText => "stream did not contain valid UTF-8"

/-- Why a command fails. -/
inductive Failure where
  | file (fault : FileFault)
  | format
  | object (e : ObjectError)
  | build (e : BuildError)
  deriving DecidableEq, Repr

/-- What a failed command writes to standard error. -/
def Failure.render : Failure → String
  | .file fault => "Error: I/O error: " ++ fault.message ++ "\n"
  | .format => "Error: JSON serialization/deserialization error: "
  | .object e => "Error: " ++ e.message ++ "\n"
  | .build e => "Error: " ++ e.message ++ "\n"

/-- How a command ends. -/
structure Outcome where
  exit : UInt32
  stdout : String
  stderr : String
  deriving DecidableEq, Repr

/-- What a command has around it: files to read and a log to write to. -/
structure Host (m : Type → Type) where
  read : String → m (Except FileFault String)
  emit : Event → m Unit

namespace Command

/-- The table of the variables of a program. -/
def interfaceTable (interface : Interface) : String :=
  let rows := Qualifier.all.flatMap fun q => (interface.of q).map fun (name, span) =>
    [q.name, name, toString span.start, toString span.size]
  if rows.isEmpty then "No interface variables declared."
  else renderTable ["Class", "Name", "Start", "Size"] rows

def valuesText (values : List Float32) : String :=
  "[" ++ String.intercalate ", " (values.map NumberStyle.values.render) ++ "]"

def setAll (q : Qualifier) (data : List (String × List Float32)) (p : Program) : Program :=
  data.foldl (fun p (name, values) => p.setData q name values) p

/-- Builds a program, runs both stages on the given data and reads a range of the result. -/
def runProgram (p : Program) (uniforms attributes : List (String × List Float32))
    (range : Nat × Nat) : Except BuildError (List Float32) := do
  let (built, p) := p.build
  built
  let (ran, p) := (setAll .attribute attributes (setAll .uniform uniforms p)).run .vertex
  ran
  let (ran, p) := p.run .fragment
  ran
  return p.read .result range.1 range.2

/-- The end of a range, counted in 64 bits. -/
def rangeEnd (range : Nat × Nat) : Nat := (range.1 + range.2) % indexLimit

/-- What a run has to say before it prints. -/
def rangeEvent (range : Nat × Nat) : Event :=
  ⟨.info, "Reading result[" ++ toString range.1 ++ ".." ++ toString (rangeEnd range) ++ "]"⟩

/-- What setting the data of variables has to say. -/
def setAllEvents (q : Qualifier) (data : List (String × List Float32)) (p : Program) :
    List Event :=
  data.flatMap fun (name, values) =>
    (if (p.interface.get? q name).isNone then
      [⟨.warn, q.name.capitalize ++ " " ++ name ++ " is not declared"⟩] else []) ++
    p.setDataEvents q name values

/-- What a run has to say once its objects are added; nothing if they cannot be built. -/
def runEvents (p : Program) (uniforms attributes : List (String × List Float32))
    (range : Nat × Nat) : List Event :=
  match p.compile with
  | .error _ => []
  | .ok _ => p.buildEvents ++ setAllEvents .uniform uniforms p ++
    setAllEvents .attribute attributes p ++ [rangeEvent range]

def listEvent (path : String) (stage : Stage) : Event :=
  ⟨.info, "Translating " ++ path ++ " as " ++ stage.name ++ " stage"⟩

section

variable {m : Type → Type} [Monad m]

def readFile (read : String → m (Except FileFault String)) (path : String) :
    ExceptT Failure m String := do
  match ← read path with
  | .ok text => return text
  | .error fault => throw (.file fault)

def loadObject (read : String → m (Except FileFault String)) (path : String) :
    ExceptT Failure m ShaderObject := do
  match ShaderObject.parse? (← readFile read path) with
  | some object => return object
  | none => throw .format

def loadOptions (read : String → m (Except FileFault String)) :
    Option String → ExceptT Failure m Options
  | none => return {}
  | some path => do
    match Options.parse? (← readFile read path) with
    | some options => return options
    | none => throw .format

def emitAll (host : Host m) (events : List Event) : ExceptT Failure m Unit :=
  ExceptT.lift (events.forM host.emit)

def addObject (host : Host m) (p : Program) (object : ShaderObject) (stage : Stage) :
    ExceptT Failure m Program := do
  emitAll host (p.addEvents object stage)
  match p.add object stage with
  | (.ok _, p) => return p
  | (.error e, _) => throw (.object e)

/-- What a command prints, and what it has to say before that. -/
def perform (host : Host m) : Command → ExceptT Failure m String
  | .list path stage config => do
    let options ← loadOptions host.read config
    let object ← loadObject host.read path
    emitAll host [listEvent path stage]
    let p ← addObject host { options } object stage
    return p.render stage ++ "\n"
  | .interface paths => do
    let p ← paths.foldlM (fun (p : Program) path => do
      addObject host p (← loadObject host.read path) .vertex) { options := {} }
    return interfaceTable p.interface ++ "\n"
  | .run vertex fragment uniforms attributes range config => do
    let options ← loadOptions host.read config
    let p ← addObject host { options } (← loadObject host.read vertex) .vertex
    let p ← addObject host p (← loadObject host.read fragment) .fragment
    emitAll host (runEvents p uniforms attributes range)
    match runProgram p uniforms attributes range with
    | .ok values => return valuesText values ++ "\n"
    | .error e => throw (.build e)

/-- Runs the command of a command line. -/
def execute (host : Host m) (words : List String) : m Outcome := do
  match parse words with
  | .error e => return ⟨2, "", e.message⟩
  | .ok command =>
    match ← (command.perform host).run with
    | .ok text => return ⟨0, text, ""⟩
    | .error failure => return ⟨1, "", failure.render⟩

end

end Command

end Lanewise
