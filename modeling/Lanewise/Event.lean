import Lanewise.Expansion

namespace Lanewise

inductive Level where
  | trace
  | debug
  | info
  | warn
  deriving DecidableEq, Repr

def Level.name : Level → String
  | .trace => "TRACE"
  | .debug => "DEBUG"
  | .info => "INFO"
  | .warn => "WARN"

/-- Something worth a line in a log. -/
structure Event where
  level : Level
  message : String
  deriving DecidableEq, Repr

def Event.missingSource (opcode : Opcode) (source : Nat) : Event :=
  ⟨.warn, opcode.name ++ " reads missing source s" ++ toString (source + 1) ++
    "; substituting 0.0"⟩

namespace Resolved

def isMissing (r : Resolved) (source : Nat) : Bool :=
  r.sources[source]?.join.isNone

/-- One warning for each use of a missing source. -/
def missingEvents (r : Resolved) : List Event :=
  match r.opcode.template with
  | .openIf =>
    if r.isMissing 0 && r.dest.isNone then [.missingSource r.opcode 0] else []
  | .vector body =>
    let sources := (body.leaves.filterMap Hole.source?).filter r.isMissing
    let events := sources.map (Event.missingSource r.opcode)
    match r.dest with
    | some (.elements _ _ channels) => channels.flatMap fun _ => events
    | _ => []
  | _ => []

def snapshotEvents (r : Resolved) : List Event :=
  match r.opcode.template, r.dest with
  | .vector body, some (.elements array start channels) =>
    match hazards (laneWrites body array start channels r.sources) with
    | [] => []
    | saved => [⟨.debug, "Snapshotting " ++ toString saved.length ++ " overlapping element(s)"⟩]
  | _, _ => []

end Resolved

/-- What expanding an instruction has to say; nothing if it is refused. -/
def Instruction.events (i : Instruction) : List Event :=
  match i.resolve with
  | .error _ => []
  | .ok r =>
    match r.statements with
    | .error _ => []
    | .ok statements =>
      r.missingEvents ++ r.snapshotEvents ++
        [⟨.debug, i.render ++ " -> " ++ toString statements.length ++ " statement(s)"⟩] ++
        statements.map fun s => ⟨.trace, "  " ++ s.render⟩

/-- What expanding the entries has to say, up to the first refused instruction. -/
def entryEvents : List Entry → List Event
  | [] => []
  | .comment _ :: entries => entryEvents entries
  | .instruction i :: entries =>
    match i.statements with
    | .ok _ => i.events ++ entryEvents entries
    | .error _ => []

end Lanewise
