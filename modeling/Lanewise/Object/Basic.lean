import Lanewise.Storage

namespace Lanewise

/-- An operand of a vector instruction: a text taken as it is, or a four-wide register with a
selection of its channels. -/
inductive Operand where
  | literal (text : String)
  | register (name : String) (address : Nat) (swizzle : Option String)
  deriving DecidableEq, Repr

structure Instruction where
  op : String
  dest : Option Operand := none
  source1 : Option Operand := none
  source2 : Option Operand := none
  source3 : Option Operand := none
  deriving DecidableEq, Repr

inductive Entry where
  | comment (text : String)
  | instruction (instruction : Instruction)
  deriving DecidableEq, Repr

/-- An interface variable with its type and the label of its place in storage. -/
structure Declaration where
  name : String
  type : String
  label : String
  deriving DecidableEq, Repr

structure Declarations where
  uniforms : List Declaration := []
  attributes : List Declaration := []
  varyings : List Declaration := []
  deriving DecidableEq, Repr

/-- What the front end hands over: declared variables and code. -/
structure ShaderObject where
  declarations : Declarations := {}
  code : List Entry := []
  deriving DecidableEq, Repr

def Operand.render : Operand → String
  | .literal text => text
  | .register name address swizzle =>
    name ++ "[" ++ toString address ++ "]" ++
      match swizzle with
      | some letters => "." ++ letters
      | none => ""

namespace Instruction

def sources (i : Instruction) : List (Option Operand) := [i.source1, i.source2, i.source3]

/-- The operands that are present, the destination first. -/
def operands (i : Instruction) : List Operand := (i.dest :: i.sources).filterMap id

def render (i : Instruction) : String :=
  match i.operands with
  | [] => i.op
  | operands => i.op ++ " " ++ String.intercalate ", " (operands.map Operand.render)

def withDest (i : Instruction) (operand : Operand) : Instruction := { i with dest := some operand }

/-- Puts an operand into the first free source, or into the last one if none is free. -/
def withSource (i : Instruction) (operand : Operand) : Instruction :=
  if i.source1.isNone then { i with source1 := some operand }
  else if i.source2.isNone then { i with source2 := some operand }
  else { i with source3 := some operand }

end Instruction

def Entry.render : Entry → String
  | .comment text => text
  | .instruction i => i.render

namespace Declarations

def of (ds : Declarations) : Qualifier → List Declaration
  | .uniform => ds.uniforms
  | .attribute => ds.attributes
  | .varying => ds.varyings

/-- All declarations, one qualifier after the other. -/
def toList (ds : Declarations) : List (Qualifier × Declaration) :=
  Qualifier.all.flatMap fun q => (ds.of q).map (q, ·)

end Declarations

def ShaderObject.instructions (object : ShaderObject) : List Instruction :=
  object.code.filterMap fun
    | .instruction i => some i
    | .comment _ => none

end Lanewise
