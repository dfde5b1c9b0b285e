namespace Lanewise

def digitValue (c : Char) : Nat := c.toNat - '0'.toNat

/-- The value of a string of decimal digits. -/
def digitsValue (cs : List Char) : Nat :=
  cs.foldl (fun n c => 10 * n + digitValue c) 0

/-- A sign in front, if there is one; `true` stands for minus. -/
def splitSign : List Char → Bool × List Char
  | '+' :: cs => (false, cs)
  | '-' :: cs => (true, cs)
  | cs => (false, cs)

/-- The parts of a number without sign in decimal or scientific form. -/
structure Numeral where
  whole : List Char
  /-- The digits behind the point, if there is a point. -/
  fraction : Option (List Char)
  exponent : Int
  deriving DecidableEq, Repr

namespace Numeral

/-- What stands behind the digits: nothing, or a mark and an integer. -/
def readExponent? : List Char → Option Int
  | [] => some 0
  | mark :: cs =>
    let (negative, digits) := splitSign cs
    if (mark = 'e' || mark = 'E') && !digits.isEmpty && digits.all Char.isDigit then
      some (if negative then -(digitsValue digits : Int) else digitsValue digits)
    else none

/-- Splits a number into its parts, either of which may have no digits. -/
def read? (cs : List Char) : Option Numeral :=
  let whole := cs.takeWhile Char.isDigit
  match cs.dropWhile Char.isDigit with
  | '.' :: rest =>
    (readExponent? (rest.dropWhile Char.isDigit)).map fun exponent =>
      ⟨whole, some (rest.takeWhile Char.isDigit), exponent⟩
  | rest => (readExponent? rest).map fun exponent => ⟨whole, none, exponent⟩

/-- The digits on both sides of the point. -/
def digits (n : Numeral) : List Char := n.whole ++ n.fraction.getD []

/-- The power of ten of the last digit. -/
def lastPlace (n : Numeral) : Int := n.exponent - (n.fraction.getD []).length

end Numeral

end Lanewise
