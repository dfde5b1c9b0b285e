namespace Lanewise

/-- A non-negative decimal, `digits * 10 ^ exponent`. -/
structure Decimal where
  digits : Nat
  exponent : Int
  deriving DecidableEq, Repr

/-- A finite non-negative single-precision value, `significand * 2 ^ exponent`. -/
structure Magnitude where
  significand : Nat
  exponent : Int
  /-- The next smaller value is half as far away as the next larger one. -/
  narrowBelow : Bool
  deriving DecidableEq, Repr

namespace Magnitude

/-- The magnitude behind the bits of a finite value, whatever its sign. -/
def ofBits (bits : UInt32) : Magnitude :=
  let exponent : Nat := bits.toNat / Nat.pow 2 23 % Nat.pow 2 8
  let fraction : Nat := bits.toNat % Nat.pow 2 23
  if exponent = 0 then ⟨fraction, -149, false⟩
  else ⟨Nat.pow 2 23 + fraction, exponent - 150, fraction = 0 && 1 < exponent⟩

/-- Order a decimal against `n * 2 ^ k`. -/
def orderAgainst (d : Decimal) (n : Nat) (k : Int) : Ordering :=
  compare (d.digits * Nat.pow 10 d.exponent.toNat * Nat.pow 2 (-k).toNat)
    (n * Nat.pow 2 k.toNat * Nat.pow 10 (-d.exponent).toNat)

/-- Whether a decimal is among the reals that round to this magnitude. The two ends of that
interval, halfway to the neighbours, belong to it when the significand is even. -/
def readsBack (x : Magnitude) (d : Decimal) : Bool :=
  let low := 4 * x.significand - if x.narrowBelow then 1 else 2
  let high := 4 * x.significand + 2
  match orderAgainst d low (x.exponent - 2), orderAgainst d high (x.exponent - 2) with
  | .gt, .lt => true
  | .eq, .lt => x.significand % 2 = 0
  | .gt, .eq => x.significand % 2 = 0
  | _, _ => false

/-- The number of places before the decimal point, negative for leading zeros after it: the least
`k` with the value below `10 ^ k`. -/
def places (x : Magnitude) : Int :=
  match (List.range 84).find? fun n : Nat =>
      orderAgainst ⟨1, (n : Int) - 44⟩ x.significand x.exponent == .gt with
  | some n => (n : Int) - 44
  | none => 40

/-- The multiple of `10 ^ exponent` that reads back and is closest, the larger one of two equally
close. -/
def nearest? (x : Magnitude) (exponent : Int) : Option Decimal :=
  let num := x.significand * Nat.pow 2 x.exponent.toNat * Nat.pow 10 (-exponent).toNat
  let den := Nat.pow 2 (-x.exponent).toNat * Nat.pow 10 exponent.toNat
  let below : Decimal := ⟨num / den, exponent⟩
  let above : Decimal := ⟨num / den + 1, exponent⟩
  match x.readsBack below, x.readsBack above with
  | true, true => some (if 2 * (num % den) < den then below else above)
  | true, false => some below
  | false, true => some above
  | false, false => none

/-- The value itself, to its last decimal place. -/
def exactly (x : Magnitude) : Decimal :=
  if 0 ≤ x.exponent then ⟨x.significand * Nat.pow 2 x.exponent.toNat, 0⟩
  else ⟨x.significand * Nat.pow 5 (-x.exponent).toNat, x.exponent⟩

/-- The decimal with the fewest digits that reads back. Nine digits always suffice. -/
def shortest (x : Magnitude) : Decimal :=
  let places := x.places
  ((List.range 9).findSome? fun n : Nat =>
    x.nearest? (places - (n + 1))).getD x.exactly

end Magnitude

end Lanewise
