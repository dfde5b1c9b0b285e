namespace Lanewise

inductive UnaryFn where
  | abs
  | rsq
  | rcp
  | floor
  | fract
  | sin
  | cos
  deriving DecidableEq, Repr

inductive BinaryFn where
  | add
  | sub
  | mul
  | min
  | max
  | pow
  | lt
  | ge
  | eq
  | ne
  deriving DecidableEq, Repr

/-- Truth as a number. -/
def truth (b : Bool) : Float32 := if b then 1.0 else 0.0

/-- The smaller of two values, and the other one if one is not a number. -/
def lesser (a b : Float32) : Float32 :=
  if a.isNaN then b else if b < a then b else a

/-- The larger of two values, and the other one if one is not a number. -/
def greater (a b : Float32) : Float32 :=
  if a.isNaN then b else if a < b then b else a

namespace UnaryFn

def apply : UnaryFn → Float32 → Float32
  | .abs, x => x.abs
  | .rsq, x => 1.0 / x.sqrt
  | .rcp, x => 1.0 / x
  | .floor, x => x.floor
  | .fract, x => x - x.floor
  | .sin, x => x.sin
  | .cos, x => x.cos

/-- The name of a function in generated code. -/
def callName : UnaryFn → String
  | .abs => "abs"
  | .rsq => "inversesqrt"
  | .rcp => "rcp"
  | .floor => "floor"
  | .fract => "fract"
  | .sin => "sin"
  | .cos => "cos"

end UnaryFn

def BinaryFn.apply : BinaryFn → Float32 → Float32 → Float32
  | .add, a, b => a + b
  | .sub, a, b => a - b
  | .mul, a, b => a * b
  | .min, a, b => lesser a b
  | .max, a, b => greater a b
  | .pow, a, b => a.pow b
  | .lt, a, b => truth (a < b)
  | .ge, a, b => truth (b ≤ a)
  | .eq, a, b => truth (a == b)
  | .ne, a, b => truth (a != b)

end Lanewise
