import Lanewise.Expr.Basic

namespace Lanewise

inductive Opcode where
  | abs
  | add
  | cmp
  | cos
  | dp3
  | dp4
  | dph
  | elseOp
  | endif
  | flr
  | frc
  | ifOp
  | lrp
  | mad
  | max
  | min
  | mov
  | mul
  | pow
  | rcp
  | ret
  | rsq
  | seq
  | sge
  | sin
  | slt
  | sne
  | sub
  | tex
  deriving DecidableEq, Repr

/-- A leaf of a template, to be filled in for each position of the destination. -/
inductive Hole where
  /-- A source at the position being written. -/
  | lane (source : Nat)
  /-- A source at the given position. -/
  | fixed (source position : Nat)
  | const (value : Float32)
  deriving DecidableEq, Repr

/-- What an opcode becomes: an expression for each position of the destination, or one statement of
control flow. -/
inductive Template where
  | vector (body : Expr Hole)
  | openIf
  | openElse
  | closeIf
  | leave
  deriving DecidableEq, Repr

namespace Template

def lane (source : Nat) : Expr Hole := .leaf (.lane source)

def fixed (source position : Nat) : Expr Hole := .leaf (.fixed source position)

def const (value : Float32) : Expr Hole := .leaf (.const value)

def unary (fn : UnaryFn) : Template := .vector (.unary fn (lane 0))

def binary (fn : BinaryFn) : Template := .vector (.binary fn (lane 0) (lane 1))

/-- The product of the first two sources at one position. -/
def product (position : Nat) : Expr Hole := .binary .mul (fixed 0 position) (fixed 1 position)

/-- The products at the positions up to `last`, added from the left. -/
def dot : Nat → Expr Hole
  | 0 => product 0
  | last + 1 => .binary .add (dot last) (product (last + 1))

end Template

namespace Opcode

open Template

def all : List Opcode := [.abs, .add, .cmp, .cos, .dp3, .dp4, .dph, .elseOp, .endif, .flr, .frc,
  .ifOp, .lrp, .mad, .max, .min, .mov, .mul, .pow, .rcp, .ret, .rsq, .seq, .sge, .sin, .slt, .sne,
  .sub, .tex]

def name : Opcode → String
  | .abs => "ABS"
  | .add => "ADD"
  | .cmp => "CMP"
  | .cos => "COS"
  | .dp3 => "DP3"
  | .dp4 => "DP4"
  | .dph => "DPH"
  | .elseOp => "ELSE"
  | .endif => "ENDIF"
  | .flr => "FLR"
  | .frc => "FRC"
  | .ifOp => "IF"
  | .lrp => "LRP"
  | .mad => "MAD"
  | .max => "MAX"
  | .min => "MIN"
  | .mov => "MOV"
  | .mul => "MUL"
  | .pow => "POW"
  | .rcp => "RCP"
  | .ret => "RET"
  | .rsq => "RSQ"
  | .seq => "SEQ"
  | .sge => "SGE"
  | .sin => "SIN"
  | .slt => "SLT"
  | .sne => "SNE"
  | .sub => "SUB"
  | .tex => "TEX"

def ofName? (name : String) : Option Opcode := all.find? (·.name == name)

def isControlFlow : Opcode → Bool
  | .ifOp | .elseOp | .endif | .ret => true
  | _ => false

/-- The number of sources that an opcode reads. -/
def arity : Opcode → Nat
  | .elseOp | .endif | .ret => 0
  | .abs | .cos | .flr | .frc | .ifOp | .mov | .rcp | .rsq | .sin | .tex => 1
  | .add | .dp3 | .dp4 | .dph | .max | .min | .mul | .pow | .seq | .sge | .slt | .sne | .sub => 2
  | .cmp | .lrp | .mad => 3

def template : Opcode → Template
  | .ifOp => .openIf
  | .elseOp => .openElse
  | .endif => .closeIf
  | .ret => .leave
  | .mov => .vector (lane 0)
  | .abs => unary .abs
  | .rsq => unary .rsq
  | .rcp => unary .rcp
  | .flr => unary .floor
  | .frc => unary .fract
  | .sin => unary .sin
  | .cos => unary .cos
  | .add => binary .add
  | .sub => binary .sub
  | .mul => binary .mul
  | .min => binary .min
  | .max => binary .max
  | .slt => binary .lt
  | .sge => binary .ge
  | .seq => binary .eq
  | .sne => binary .ne
  | .mad => .vector (.binary .add (.binary .mul (lane 0) (lane 1)) (lane 2))
  | .lrp => .vector (.binary .add (.binary .mul (lane 0) (lane 1))
      (.binary .mul (.binary .sub (const 1.0) (lane 0)) (lane 2)))
  | .cmp => .vector (.select (lane 0) (lane 1) (lane 2))
  | .dp3 => .vector (dot 2)
  | .dp4 => .vector (dot 3)
  | .dph => .vector (.binary .add (dot 2) (fixed 1 3))
  | .pow => .vector (.binary .pow (fixed 0 0) (fixed 1 0))
  | .tex => .vector (.sample (fixed 0 0) (fixed 0 1) (const 0.0) 0)

end Opcode

end Lanewise
