import Lanewise.Access
import Lanewise.Hazard
import Lanewise.Opcode

namespace Lanewise

/-- The lines that expanding an instruction adds, and why it was refused if it was. -/
structure Expansion where
  lines : List Line
  refusal : Option ObjectError
  deriving DecidableEq, Repr

/-- An instruction with its opcode and operands known. -/
structure Resolved where
  opcode : Opcode
  dest : Option Access
  sources : List (Option Access)
  deriving DecidableEq, Repr

/-- The value of a source at a position; zero stands in for a source that is missing. -/
def sourceAt (sources : List (Option Access)) (source position : Nat) : Atom :=
  match sources[source]? with
  | some (some access) => access.atomAt position
  | _ => .const 0.0

namespace Hole

def fill (sources : List (Option Access)) (position : Nat) : Hole → Atom
  | .lane source => sourceAt sources source position
  | .fixed source place => sourceAt sources source place
  | .const value => .const value

/-- The source that a hole needs. -/
def source? : Hole → Option Nat
  | .lane source => some source
  | .fixed source _ => some source
  | .const _ => none

end Hole

/-- One write for each channel of the destination. -/
def laneWrites (body : Expr Hole) (array : String) (start : Nat) (channels : List Nat)
    (sources : List (Option Access)) : List Write :=
  channels.zipIdx.map fun (channel, position) =>
    ⟨Access.elementAt array start channels position,
      (body.map (Hole.fill sources position)).withChannel channel⟩

namespace Resolved

/-- The condition of an `IF`: its first source, or else its destination, at the first position. -/
def condition (r : Resolved) : Atom :=
  match r.sources.head?.join <|> r.dest with
  | some access => access.atomAt 0
  | none => .const 0.0

def statements (r : Resolved) : Except ObjectError (List Statement) :=
  match r.opcode.template with
  | .openIf => .ok [.openIf r.condition]
  | .openElse => .ok [.openElse]
  | .closeIf => .ok [.closeIf]
  | .leave => .ok [.leave]
  | .vector body =>
    match r.dest with
    | some (.elements array start channels) =>
      .ok (sequentialize (laneWrites body array start channels r.sources))
    | _ => .error (.invalidDestination r.opcode.name)

end Resolved

namespace Instruction

def resolve (i : Instruction) : Except ObjectError Resolved := do
  match Opcode.ofName? i.op with
  | none => .error (.unknownOpcode i.op)
  | some opcode =>
    let dest ← resolve? .destination i.dest
    let sources ← i.sources.mapM (resolve? .source)
    return ⟨opcode, dest, sources⟩

def statements (i : Instruction) : Except ObjectError (List Statement) := do
  (← i.resolve).statements

/-- The lines of an instruction: a comment with its text if `traced`, its statements and a blank
line. A refused instruction leaves at most the comment. -/
def expand (traced : Bool) (i : Instruction) : Expansion :=
  let heading := if traced then [Line.trace i.render] else []
  match i.statements with
  | .ok statements => ⟨heading ++ statements.map .statement ++ [.blank], none⟩
  | .error e => ⟨heading, some e⟩

end Instruction

def Entry.expand (traced : Bool) : Entry → Except ObjectError (List Line)
  | .comment text => .ok [.note text]
  | .instruction i =>
    match i.expand traced with
    | ⟨lines, none⟩ => .ok lines
    | ⟨_, some e⟩ => .error e

/-- The lines of all entries in order; the first refused instruction refuses them all. -/
def expandEntries (traced : Bool) (entries : List Entry) : Except ObjectError (List Line) := do
  return (← entries.mapM (Entry.expand traced)).flatten

end Lanewise
