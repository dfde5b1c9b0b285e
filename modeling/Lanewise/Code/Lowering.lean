import Lanewise.Code.Basic
import Lanewise.Error
import Lanewise.Line
import Lanewise.Number.Reader
import Lanewise.Text.Blank

namespace Lanewise

/-- The absolute index of an element. -/
def Element.locate (sizes : Capacities) (e : Element) : Except BuildError Nat :=
  match Region.ofName? e.array with
  | none => .error (.unknownRegion e.array)
  | some region =>
    if e.index < sizes.of region then .ok (sizes.cell region e.index)
    else .error (.outOfBounds region e.index (sizes.of region))

/-- An atom as an operand of runnable code. A literal has to be the text of a number. -/
def Atom.lower (sizes : Capacities) : Atom → Except BuildError Input
  | .element e => return .cell (← e.locate sizes)
  | .const value => .ok (.const value)
  | .literal text =>
    match readFloat (Text.trim text) with
    | .ok value => .ok (.const value)
    | .error _ => .error (.unresolvedLiteral text)

/-- The target of an op until its place is known. -/
def unknownTarget : Nat := indexLimit - 1

def Op.retarget (target : Nat) : Op → Op
  | .branchIfZero cond _ => .branchIfZero cond target
  | .jump _ => .jump target
  | op => op

/-- A conditional that is still open: the position of its branch, and of the jump behind its first
arm once the second one has begun. -/
structure Frame where
  branch : Nat
  jump : Option Nat := none
  deriving DecidableEq, Repr

/-- The op whose target is the end of the arm so far. -/
def Frame.hole (frame : Frame) : Nat := frame.jump.getD frame.branch

/-- Code under construction, and the conditionals that are open in it, the innermost first. -/
structure Draft where
  ops : Array Op := #[]
  frames : List Frame := []
  deriving DecidableEq, Repr

namespace Draft

/-- Adds a statement. The end of an arm settles the target of the op that jumps there. -/
def add (sizes : Capacities) (draft : Draft) : Statement → Except BuildError Draft
  | .assign target value => do
    let dest ← target.locate sizes
    let value ← value.tryMap (Atom.lower sizes)
    return { draft with ops := draft.ops.push (.store dest value) }
  | .openIf cond => do
    let cond ← cond.lower sizes
    return ⟨draft.ops.push (.branchIfZero cond unknownTarget), ⟨draft.ops.size, none⟩ :: draft.frames⟩
  | .openElse =>
    match draft.frames with
    | ⟨branch, none⟩ :: frames =>
      let ops := draft.ops.push (.jump unknownTarget)
      .ok ⟨ops.modify branch (Op.retarget ops.size), ⟨branch, some draft.ops.size⟩ :: frames⟩
    | _ => .error (.unbalanced .elseWithoutIf)
  | .closeIf =>
    match draft.frames with
    | frame :: frames => .ok ⟨draft.ops.modify frame.hole (Op.retarget draft.ops.size), frames⟩
    | [] => .error (.unbalanced .endIfWithoutIf)
  | .leave => .ok { draft with ops := draft.ops.push .leave }

/-- The code of a draft in which every conditional is closed. -/
def finish (draft : Draft) : Except BuildError Code :=
  if draft.frames.isEmpty then .ok ⟨draft.ops⟩ else .error (.unbalanced .ifWithoutEndIf)

end Draft

/-- The runnable code of a listing. -/
def Code.ofLines (sizes : Capacities) (lines : List Line) : Except BuildError Code := do
  (← (lines.filterMap Line.statement?).foldlM (Draft.add sizes) {}).finish

end Lanewise
