import Lanewise.Number.Decimal

namespace Lanewise

/-- How numbers are laid out. -/
structure NumberStyle where
  /-- Integral values end in a point and a zero. -/
  pointZero : Bool
  /-- Values below a ten-thousandth and from ten to the sixteenth on have an exponent. -/
  withExponent : Bool

namespace NumberStyle

/-- Values handed to the host: all places written out. -/
def values : NumberStyle := ⟨false, false⟩

/-- Constants inside generated code. -/
def constants : NumberStyle := ⟨true, true⟩

def zeros (n : Nat) : List Char := List.replicate n '0'

/-- Digits with the decimal point behind the first `places` of them. -/
def positional (style : NumberStyle) (digits : List Char) (places : Int) : List Char :=
  if places ≤ 0 then '0' :: '.' :: zeros (-places).toNat ++ digits
  else if places.toNat < digits.length then
    digits.take places.toNat ++ '.' :: digits.drop places.toNat
  else
    digits ++ zeros (places.toNat - digits.length) ++ if style.pointZero then ['.', '0'] else []

/-- Digits with the point behind the first one and the power of ten after them. -/
def scientific (digits : List Char) (places : Int) : List Char :=
  let mantissa := match digits with
    | first :: second :: rest => first :: '.' :: second :: rest
    | _ => digits
  mantissa ++ 'e' :: (toString (places - 1)).toList

def renderMagnitude (style : NumberStyle) (x : Magnitude) : List Char :=
  if x.significand = 0 then if style.pointZero then ['0', '.', '0'] else ['0']
  else
    let d := x.shortest
    let digits := Nat.toDigits 10 d.digits
    let places := d.exponent + digits.length
    let digits := (digits.reverse.dropWhile (· == '0')).reverse
    if style.withExponent && (places < -3 || 16 < places) then scientific digits places
    else style.positional digits places

/-- The text of a single-precision value, with the fewest digits that read back. -/
def render (style : NumberStyle) (x : Float32) : String :=
  if x.isNaN then "NaN"
  else
    let sign := if x.toBits.toNat < Nat.pow 2 31 then [] else ['-']
    String.ofList (sign ++ if x.isInf then ['i', 'n', 'f']
      else style.renderMagnitude (.ofBits x.toBits))

end NumberStyle

end Lanewise
