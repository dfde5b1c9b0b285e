import Lanewise.Line

namespace Lanewise

/-- The value that one position of a vector instruction writes. -/
structure Write where
  target : Element
  value : Expr Atom
  deriving DecidableEq, Repr

/-- The elements that an expression reads. -/
def Expr.elements (e : Expr Atom) : List Element :=
  e.leaves.filterMap fun
    | .element x => some x
    | _ => none

/-- The targets, with repetitions, that a later write reads. -/
def overlaps : List Write → List Element
  | [] => []
  | w :: later =>
    if later.any fun v => v.value.elements.contains w.target then w.target :: overlaps later
    else overlaps later

/-- The elements that would be overwritten before they are read, each once. -/
def hazards (writes : List Write) : List Element := (overlaps writes).eraseDups

def scratchElement (n : Nat) : Element := ⟨Region.scratch.array, n⟩

/-- An atom with a saved element replaced by its copy. -/
def redirect (saved : List Element) : Atom → Atom
  | .element x =>
    match saved.idxOf? x with
    | some n => .element (scratchElement n)
    | none => .element x
  | atom => atom

/-- Assignments one after the other with the effect of all writes at once: what a write would
overwrite too early is saved to scratch first. -/
def sequentialize (writes : List Write) : List Statement :=
  let saved := hazards writes
  saved.zipIdx.map (fun s => .assign (scratchElement s.2) (.leaf (.element s.1))) ++
    writes.map fun w => .assign w.target (w.value.map (redirect saved))

end Lanewise
