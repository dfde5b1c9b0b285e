import Lanewise.Command.Arguments

namespace Lanewise

/-- What the command line asks for. -/
inductive Command where
  /-- Print the generated code of an object. -/
  | list (path : String) (stage : Stage) (config : Option String)
  /-- Print a table of the interface variables of some objects. -/
  | interface (paths : List String)
  /-- Run two objects on some data and print a range of the result. -/
  | run (vertex fragment : String) (uniforms attributes : List (String × List Float32))
      (range : Nat × Nat) (config : Option String)

namespace Command

def pathArgument : Argument :=
  { name := "path", placeholder := "IR_JSON", kind := .path, positional := true }

def pathsArgument : Argument := { pathArgument with repeatable := true }

def stageArgument : Argument :=
  { name := "stage", placeholder := "STAGE", kind := .stage }

def configArgument : Argument :=
  { name := "config", placeholder := "CONFIG", kind := .path }

def vertexArgument : Argument :=
  { name := "vertex", placeholder := "IR_JSON", kind := .path }

def fragmentArgument : Argument :=
  { name := "fragment", placeholder := "IR_JSON", kind := .path }

def uniformArgument : Argument :=
  { name := "uniform", placeholder := "NAME=VALUES", kind := .assignment, repeatable := true }

def attributeArgument : Argument :=
  { name := "attribute", placeholder := "NAME=VALUES", kind := .assignment, repeatable := true }

def resultArgument : Argument :=
  { name := "result", placeholder := "START:SIZE", kind := .range }

/-- The first value of an argument. -/
def first? (scan : Scan) (a : Argument) : Option String := (scan.values a).head?

/-- The first value of an argument that must be there. -/
def required (scan : Scan) (a : Argument) : Except UsageError String :=
  match first? scan a with
  | some value => .ok value
  | none => .error .misuse

def assignments (scan : Scan) (a : Argument) : List (String × List Float32) :=
  (scan.values a).filterMap fun value => (readAssignment value).toOption

def parseList (words : List String) : Except UsageError Command := do
  let scan ← scanWords [pathArgument, stageArgument, configArgument] words
  let path ← required scan pathArgument
  let stage := ((first? scan stageArgument).bind readStage?).getD .vertex
  return .list path stage (first? scan configArgument)

def parseInterface (words : List String) : Except UsageError Command := do
  let scan ← scanWords [pathsArgument] words
  discard <| required scan pathsArgument
  return .interface (scan.values pathsArgument)

def parseRun (words : List String) : Except UsageError Command := do
  let scan ← scanWords [vertexArgument, fragmentArgument, uniformArgument, attributeArgument,
    resultArgument, configArgument] words
  let vertex ← required scan vertexArgument
  let fragment ← required scan fragmentArgument
  let range := (first? scan resultArgument).bind fun value => (readRange value).toOption
  return .run vertex fragment (assignments scan uniformArgument)
    (assignments scan attributeArgument) (range.getD (0, 4)) (first? scan configArgument)

/-- The command that the words of a command line ask for. -/
def parse : List String → Except UsageError Command
  | "translate" :: words => parseList words
  | "layout" :: words => parseInterface words
  | "run" :: words => parseRun words
  | _ => .error .misuse

end Command

end Lanewise
