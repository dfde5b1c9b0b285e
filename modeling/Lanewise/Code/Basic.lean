import Lanewise.Buffer
import Lanewise.Expr.Basic

namespace Lanewise

/-- An operand of runnable code: a cell of the buffer or a constant. -/
inductive Input where
  | cell (index : Nat)
  | const (value : Float32)
  deriving DecidableEq, Repr

/-- One step of runnable code. Targets are positions in the code. -/
inductive Op where
  | store (dest : Nat) (value : Expr Input)
  | branchIfZero (cond : Input) (target : Nat)
  | jump (target : Nat)
  | leave
  deriving DecidableEq, Repr

structure Code where
  ops : Array Op := #[]
  deriving DecidableEq, Repr

variable {sizes : Capacities}

def Input.value (b : Buffer sizes) : Input → Float32
  | .cell index => b.get index
  | .const value => value

namespace Code

/-- The position and the buffer after the op at a position; nothing behind the last op and at the
end of the run. A branch is taken if its condition equals zero. -/
def step (code : Code) (sampler : Sampler) (position : Nat) (b : Buffer sizes) :
    Option (Nat × Buffer sizes) :=
  match code.ops[position]? with
  | none => none
  | some (.store dest value) =>
    some (position + 1, b.set dest (value.eval sampler (Input.value b)))
  | some (.branchIfZero cond target) =>
    some (if cond.value b == 0.0 then target else position + 1, b)
  | some (.jump target) => some (target, b)
  | some .leave => none

/-- At most `fuel` steps from a position. -/
def runFrom (code : Code) (sampler : Sampler) : Nat → Nat → Buffer sizes → Buffer sizes
  | 0, _, b => b
  | fuel + 1, position, b =>
    match code.step sampler position b with
    | none => b
    | some (position, b) => code.runFrom sampler fuel position b

/-- A run from the first op. Targets lie ahead, so there are no more steps than ops. -/
def run (code : Code) (sampler : Sampler) (b : Buffer sizes) : Buffer sizes :=
  code.runFrom sampler code.ops.size 0 b

end Code

end Lanewise
