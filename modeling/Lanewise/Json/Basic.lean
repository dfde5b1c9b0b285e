import Lanewise.Number.Numeral

namespace Lanewise

/-- A value of the data format, with object fields in the order of the text and repetitions kept.
A string whose escapes leave half of a surrogate pair alone has no text. -/
inductive Json where
  | null
  | bool (value : Bool)
  | number (lexeme : String)
  | string (text : Option String)
  | array (items : List Json)
  | object (fields : List (Option String × Json))

namespace Json

def ofText (s : String) : Json := .string (some s)

def ofIndex (n : Nat) : Json := .number (toString n)

def ofFields (fields : List (String × Json)) : Json :=
  .object (fields.map fun field => (some field.1, field.2))

/-- Appends digits to a significand while it stays below `2 ^ 64`, and counts those that it took. -/
def takeDigits (n : Nat) : List Char → Nat × Nat
  | [] => (n, 0)
  | c :: cs =>
    if 10 * n + digitValue c < Nat.pow 2 64 then
      let (m, taken) := takeDigits (10 * n + digitValue c) cs
      (m, taken + 1)
    else (n, 0)

/-- Whether a number stays finite in double precision, taken as its leading digits times a power of
ten. -/
def isFinite (lexeme : String) : Bool :=
  match Numeral.read? (splitSign lexeme.toList).2 with
  | none => false
  | some numeral =>
    let (n, taken) := takeDigits 0 numeral.whole
    let dropped := numeral.whole.length - taken
    let (n, taken) := takeDigits n (numeral.fraction.getD [])
    let exponent := numeral.exponent + dropped - taken
    n == 0 || exponent ≤ 0 ||
      exponent ≤ 308 && !(Float.ofNat n * Float.ofScientific 1 false exponent.toNat).isInf

mutual

/-- Whether a value can be held before it is known what it is for: every string has a text, every
number is finite, and arrays and objects nest at most `levels` deep. -/
def isHoldable (levels : Nat) : Json → Bool
  | .null => true
  | .bool _ => true
  | .number lexeme => isFinite lexeme
  | .string text => text.isSome
  | .array items => 0 < levels && areHoldable (levels - 1) items
  | .object fields => 0 < levels && fieldsAreHoldable (levels - 1) fields

def areHoldable (levels : Nat) : List Json → Bool
  | [] => true
  | item :: items => isHoldable levels item && areHoldable levels items

def fieldsAreHoldable (levels : Nat) : List (Option String × Json) → Bool
  | [] => true
  | (key, value) :: fields =>
    key.isSome && isHoldable levels value && fieldsAreHoldable levels fields

end

end Json

end Lanewise
