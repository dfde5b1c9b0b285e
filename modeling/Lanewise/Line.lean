import Lanewise.Expr.Render
import Lanewise.Number.Style
import Lanewise.Storage

namespace Lanewise

/-- One element of an array in generated code. -/
structure Element where
  array : String
  index : Nat
  deriving DecidableEq, Repr

/-- A leaf of an expression in generated code. -/
inductive Atom where
  | element (element : Element)
  | literal (text : String)
  | const (value : Float32)
  deriving DecidableEq, Repr

inductive Statement where
  | assign (target : Element) (value : Expr Atom)
  | openIf (cond : Atom)
  | openElse
  | closeIf
  | leave
  deriving DecidableEq, Repr

/-- A line of generated code. -/
inductive Line where
  | trace (text : String)
  | note (text : String)
  | statement (statement : Statement)
  | blank
  deriving DecidableEq, Repr

def Element.render (e : Element) : String := e.array ++ "[" ++ toString e.index ++ "]"

def Atom.render : Atom → String
  | .element e => e.render
  | .literal text => text
  | .const value => NumberStyle.constants.render value

def Statement.render : Statement → String
  | .assign target value => target.render ++ " = " ++ value.render Atom.render ++ ";"
  | .openIf cond => "if (" ++ cond.render ++ ") \x7b"
  | .openElse => "\x7d else \x7b"
  | .closeIf => "\x7d"
  | .leave => "return;"

namespace Line

def render : Line → String
  | .trace text => "// " ++ text
  | .note text => "    // " ++ text
  | .statement s => "    " ++ s.render
  | .blank => ""

def statement? : Line → Option Statement
  | .statement s => some s
  | _ => none

/-- The text of a listing, without a newline at its end. -/
def renderAll (lines : List Line) : String := String.intercalate "\n" (lines.map render)

end Line

end Lanewise
