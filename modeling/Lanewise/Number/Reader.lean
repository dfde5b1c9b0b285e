import Lanewise.Number.Numeral

namespace Lanewise

/-- Sizes, addresses and indices are below this bound. -/
def indexLimit : Nat := Nat.pow 2 64

/-- Why a text is not a number. -/
inductive NumberFault where
  | emptyInteger
  | invalidDigit
  | tooLarge
  | emptyFloat
  | invalidFloat
  deriving DecidableEq, Repr

def NumberFault.message : NumberFault → String
  | .emptyInteger => "cannot parse integer from empty string"
  | .invalidDigit => "invalid digit found in string"
  | .tooLarge => "number too large to fit in target type"
  | .emptyFloat => "cannot parse float from empty string"
  | .invalidFloat => "invalid float literal"

/-- One more digit behind those read so far. -/
def readDigit (n : Nat) (c : Char) : Except NumberFault Nat :=
  if !c.isDigit then .error .invalidDigit
  else if 10 * n + digitValue c < indexLimit then .ok (10 * n + digitValue c)
  else .error .tooLarge

/-- Digits with at most one plus sign before them, read from the left up to the first fault. -/
def readIndexChars : List Char → Except NumberFault Nat
  | [] => .error .emptyInteger
  | ['+'] => .error .invalidDigit
  | '+' :: cs => cs.foldlM readDigit 0
  | cs => cs.foldlM readDigit 0

def readIndex (s : String) : Except NumberFault Nat :=
  readIndexChars s.toList

/-- A string of digits times `10 ^ exponent`, rounded to the nearest single-precision value, ties to
even. A value beyond the range is decided by its number of places alone. -/
def roundDecimal (digits : List Char) (exponent : Int) : Float32 :=
  let digits := digits.dropWhile (· == '0')
  let places := digits.length + exponent
  if digits.isEmpty || places < -60 then Float32.ofBits 0
  else if 60 < places then Float32.ofBits 0x7F800000
  else Float32.ofScientific (digitsValue digits) (exponent < 0) exponent.natAbs

/-- A number without sign, with a digit on at least one side of the point, or the name of a value
that is no number of this form. -/
def readUnsigned? (cs : List Char) : Option Float32 :=
  let name := cs.map Char.toLower
  if name = "inf".toList || name = "infinity".toList then some (Float32.ofBits 0x7F800000)
  else if name = "nan".toList then some (Float32.ofBits 0x7FC00000)
  else
    match Numeral.read? cs with
    | some n => if n.digits.isEmpty then none else some (roundDecimal n.digits n.lastPlace)
    | none => none

def readFloatChars (cs : List Char) : Except NumberFault Float32 :=
  if cs.isEmpty then .error .emptyFloat
  else
    let (negative, cs) := splitSign cs
    match readUnsigned? cs with
    | some x => .ok (if negative then -x else x)
    | none => .error .invalidFloat

/-- The single-precision value nearest to a decimal text. -/
def readFloat (s : String) : Except NumberFault Float32 :=
  readFloatChars s.toList

end Lanewise
