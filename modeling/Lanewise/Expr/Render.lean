import Lanewise.Expr.Basic

namespace Lanewise

/-- A call or a comparison around two texts. -/
def BinaryFn.render (a b : String) : BinaryFn → String
  | .add => a ++ " + " ++ b
  | .sub => a ++ " - " ++ b
  | .mul => a ++ " * " ++ b
  | .min => "min(" ++ a ++ ", " ++ b ++ ")"
  | .max => "max(" ++ a ++ ", " ++ b ++ ")"
  | .pow => "pow(" ++ a ++ ", " ++ b ++ ")"
  | .lt => "(" ++ a ++ " < " ++ b ++ ") ? 1.0 : 0.0"
  | .ge => "(" ++ a ++ " >= " ++ b ++ ") ? 1.0 : 0.0"
  | .eq => "(" ++ a ++ " == " ++ b ++ ") ? 1.0 : 0.0"
  | .ne => "(" ++ a ++ " != " ++ b ++ ") ? 1.0 : 0.0"

namespace Expr

variable {α : Type}

/-- Whether an expression needs parentheses as an operand. -/
def isCompound : Expr α → Bool
  | .unary .rcp _ => true
  | .binary .. => true
  | .select .. => true
  | _ => false

def enclose (e : Expr α) (text : String) : String :=
  if e.isCompound then "(" ++ text ++ ")" else text

/-- The text of an expression in generated code. -/
def render (leafText : α → String) : Expr α → String
  | .leaf a => leafText a
  | .unary .rcp x => "1.0 / " ++ x.enclose (x.render leafText)
  | .unary fn x => fn.callName ++ "(" ++ x.render leafText ++ ")"
  | .binary fn a b => fn.render (a.enclose (a.render leafText)) (b.enclose (b.render leafText))
  | .select cond negative otherwise =>
    "(" ++ cond.enclose (cond.render leafText) ++ " < 0.0) ? " ++
      negative.enclose (negative.render leafText) ++ " : " ++
      otherwise.enclose (otherwise.render leafText)
  | .sample u v lod channel =>
    "tex(" ++ u.render leafText ++ ", " ++ v.render leafText ++ ", " ++ lod.render leafText ++
      ")[" ++ toString channel ++ "]"

end Expr

end Lanewise
