import Lanewise.Storage
import Lanewise.Text.Quoted

namespace Lanewise

/-- Why a shader object is refused. -/
inductive ObjectError where
  | unknownOpcode (name : String)
  | invalidDestination (opcode : String)
  | addressOverflow (name : String) (address : Nat)
  | malformedSwizzle (swizzle : String)
  | malformedLocation (name label : String)
  | unknownType (name type : String)
  deriving DecidableEq, Repr

def ObjectError.message : ObjectError → String
  | .unknownOpcode name => "Could not translate opcode: " ++ name
  | .invalidDestination opcode =>
    "Opcode " ++ opcode ++ " requires an addressed destination operand"
  | .addressOverflow name address =>
    "Operand " ++ name ++ "[" ++ toString address ++ "] lies outside the addressable range"
  | .malformedSwizzle swizzle => "Invalid swizzle: " ++ Text.quote swizzle
  | .malformedLocation name label =>
    "Symbol " ++ name ++ " has malformed location label " ++ Text.quote label
  | .unknownType name type => "Symbol " ++ name ++ " has type " ++ type ++ " with no known size"

/-- How conditional statements fail to pair up. -/
inductive Imbalance where
  | elseWithoutIf
  | endIfWithoutIf
  | ifWithoutEndIf
  deriving DecidableEq, Repr

def Imbalance.message : Imbalance → String
  | .elseWithoutIf => "ELSE without IF"
  | .endIfWithoutIf => "ENDIF without IF"
  | .ifWithoutEndIf => "IF without ENDIF"

/-- Why generated code cannot run on a buffer. -/
inductive BuildError where
  | unknownRegion (name : String)
  | outOfBounds (region : Region) (index capacity : Nat)
  | unresolvedLiteral (text : String)
  | unbalanced (imbalance : Imbalance)
  | notBuilt
  deriving DecidableEq, Repr

def BuildError.message : BuildError → String
  | .unknownRegion name => "No buffer region backs storage " ++ name
  | .outOfBounds region index capacity =>
    "Index " ++ toString index ++ " is outside region " ++ region.name ++
      " (capacity " ++ toString capacity ++ ")"
  | .unresolvedLiteral text => "Literal operand " ++ text ++ " is not a numeric constant"
  | .unbalanced imbalance => "Unbalanced control flow: " ++ imbalance.message
  | .notBuilt => "Program has not been built"

end Lanewise
