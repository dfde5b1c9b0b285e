import Lanewise.Error
import Lanewise.Line
import Lanewise.Number.Reader
import Lanewise.Object.Basic

namespace Lanewise

/-- The number of elements of a register. -/
def registerWidth : Nat := 4

inductive Role where
  | destination
  | source
  deriving DecidableEq, Repr

/-- An operand whose place in storage is known: a text that is the same at every position, or the
channels of a register, one for each position. -/
inductive Access where
  | literal (text : String)
  | elements (array : String) (start : Nat) (channels : List Nat)
  deriving DecidableEq, Repr

def channel? : Char → Option Nat
  | 'x' => some 0
  | 'y' => some 1
  | 'z' => some 2
  | 'w' => some 3
  | _ => none

/-- The letters of a swizzle; all four channels in order if there are none. -/
def swizzleLetters : Option String → String
  | none => "xyzw"
  | some letters => if letters = "" then "xyzw" else letters

/-- A source has a channel at all four positions: the last one is repeated. -/
def Role.fill (role : Role) (channels : List Nat) : List Nat :=
  match role with
  | .destination => channels
  | .source =>
    channels ++ List.replicate (registerWidth - channels.length) (channels.getLast?.getD 0)

/-- The channels that a swizzle selects. -/
def swizzleChannels (swizzle : Option String) (role : Role) : Except ObjectError (List Nat) :=
  let letters := swizzleLetters swizzle
  match letters.toList.mapM channel? with
  | some channels =>
    if channels.length ≤ registerWidth then .ok (role.fill channels)
    else .error (.malformedSwizzle letters)
  | none => .error (.malformedSwizzle letters)

/-- The first element of a register, all of which must have an index. -/
def registerStart (name : String) (address : Nat) : Except ObjectError Nat :=
  if registerWidth * address + (registerWidth - 1) < indexLimit then .ok (registerWidth * address)
  else .error (.addressOverflow name address)

def Operand.resolve (role : Role) : Operand → Except ObjectError Access
  | .literal text => .ok (.literal text)
  | .register name address swizzle => do
    let start ← registerStart name address
    let channels ← swizzleChannels swizzle role
    return .elements (arrayName name) start channels

/-- Resolves an operand if it is present. -/
def resolve? (role : Role) : Option Operand → Except ObjectError (Option Access)
  | none => .ok none
  | some operand => return some (← operand.resolve role)

namespace Access

def channels? : Access → Option (List Nat)
  | .literal _ => none
  | .elements _ _ channels => some channels

/-- The channel at a position; positions behind the last channel repeat it. -/
def channelAt (channels : List Nat) (position : Nat) : Nat :=
  match channels[position]? with
  | some channel => channel
  | none => channels.getLast?.getD 0

/-- The element at a position. Indices stop at the largest one. -/
def elementAt (array : String) (start : Nat) (channels : List Nat) (position : Nat) : Element :=
  ⟨array, min (start + channelAt channels position) (indexLimit - 1)⟩

/-- What is read or written at a position. -/
def atomAt (access : Access) (position : Nat) : Atom :=
  match access with
  | .literal text => .literal text
  | .elements array start channels => .element (elementAt array start channels position)

def elementAt? (access : Access) (position : Nat) : Option Element :=
  match access.atomAt position with
  | .element e => some e
  | _ => none

end Access

end Lanewise
