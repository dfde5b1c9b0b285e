import Lanewise.Code.Lowering
import Lanewise.Expansion
import Lanewise.Interface
import Lanewise.Options

namespace Lanewise

/-- Runnable code for both stages. -/
structure BuiltProgram where
  vertex : Code
  fragment : Code
  deriving DecidableEq, Repr

def BuiltProgram.of (built : BuiltProgram) : Stage → Code
  | .vertex => built.vertex
  | .fragment => built.fragment

/-- A shader program: its interface, the generated code of both stages and its memory. -/
structure Program where
  options : Options
  typeSizes : TypeSizes := builtinSizes
  interface : Interface := {}
  vertexLines : List Line := []
  fragmentLines : List Line := []
  buffer : Buffer options.capacities := .zero
  sampler : Sampler := fun _ _ _ => ⟨0.0, 0.0, 0.0, 0.0⟩
  built : Option BuiltProgram := none
  lastError : Option ObjectError := none

namespace Program

/-- Replaces the sizes of types. Variables that have their place keep it. -/
def withTypeSizes (p : Program) (sizes : TypeSizes) : Program := { p with typeSizes := sizes }

def withSampler (p : Program) (sampler : Sampler) : Program := { p with sampler }

def lines (p : Program) : Stage → List Line
  | .vertex => p.vertexLines
  | .fragment => p.fragmentLines

def render (p : Program) (stage : Stage) : String := Line.renderAll (p.lines stage)

def appendLines (p : Program) (stage : Stage) (lines : List Line) : Program :=
  match stage with
  | .vertex => { p with vertexLines := p.vertexLines ++ lines }
  | .fragment => { p with fragmentLines := p.fragmentLines ++ lines }

/-- The bindings and the lines of an object. Its declarations are judged before its code. -/
def digest (p : Program) (object : ShaderObject) :
    Except ObjectError (List Binding × List Line) := do
  let bindings ← object.declarations.bindings p.typeSizes
  let lines ← expandEntries p.options.traceComments object.code
  return (bindings, lines)

/-- Adds an object to a stage, which has to be built again after that. A refused object changes
nothing but the last error. -/
def add (p : Program) (object : ShaderObject) (stage : Stage) :
    Except ObjectError Unit × Program :=
  match p.digest object with
  | .ok (bindings, lines) =>
    (.ok (), { p.appendLines stage lines with
      interface := p.interface.insertAll bindings, built := none, lastError := none })
  | .error e => (.error e, { p with lastError := some e })

def clearError (p : Program) : Program := { p with lastError := none }

def lower (p : Program) (stage : Stage) : Except BuildError Code :=
  Code.ofLines p.options.capacities (p.lines stage)

/-- Runnable code for the lines that there are. -/
def compile (p : Program) : Except BuildError BuiltProgram := do
  return ⟨← p.lower .vertex, ← p.lower .fragment⟩

def build (p : Program) : Except BuildError Unit × Program :=
  match p.compile with
  | .ok built => (.ok (), { p with built := some built })
  | .error e => (.error e, p)

def isBuilt (p : Program) : Bool := p.built.isSome

def run (p : Program) (stage : Stage) : Except BuildError Unit × Program :=
  match p.built with
  | none => (.error .notBuilt, p)
  | some built => (.ok (), { p with buffer := (built.of stage).run p.sampler p.buffer })

/-- Writes data to a variable, as far as its size and its section allow. -/
def setData (p : Program) (q : Qualifier) (name : String) (data : List Float32) : Program :=
  match p.interface.get? q name with
  | none => p
  | some span => { p with buffer := p.buffer.write q.region span.start data span.size }

def read (p : Program) (region : Region) (start size : Nat) : List Float32 :=
  p.buffer.read region start size

/-- What adding an object has to say. -/
def addEvents (p : Program) (object : ShaderObject) (stage : Stage) : List Event :=
  match object.declarations.bindings p.typeSizes with
  | .error e => [rejected e]
  | .ok bindings =>
    entryEvents object.code ++
      match expandEntries p.options.traceComments object.code with
      | .error e => [rejected e]
      | .ok lines => bindings.map Binding.event ++
        [⟨.info, "Accepted " ++ stage.name ++ " object: " ++ toString object.instructions.length ++
          " instruction(s), " ++ toString lines.length ++ " line(s)"⟩]
where
  rejected (e : ObjectError) : Event :=
    ⟨.warn, "Rejected " ++ stage.name ++ " object: " ++ e.message⟩

/-- What building has to say. -/
def buildEvents (p : Program) : List Event :=
  match p.compile with
  | .ok built =>
    [⟨.info, "Built program: " ++ toString built.vertex.ops.size ++ " vertex op(s), " ++
      toString built.fragment.ops.size ++ " fragment op(s)"⟩]
  | .error _ => []

/-- What writing data to a variable has to say. -/
def setDataEvents (p : Program) (q : Qualifier) (name : String) (data : List Float32) :
    List Event :=
  match p.interface.get? q name with
  | none => [⟨.debug, "Ignoring data for unknown " ++ q.name ++ " " ++ name⟩]
  | some span =>
    let written :=
      Buffer.writeCount p.options.capacities q.region span.start data span.size
    if written < min data.length span.size then
      [⟨.warn, q.name ++ " " ++ name ++ " truncated to " ++ toString written ++ " element(s)"⟩]
    else []

end Program

end Lanewise
