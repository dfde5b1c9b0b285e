import Lanewise.Json.Basic
import Lanewise.Number.Reader

namespace Lanewise.Json

def text? : Json → Option String
  | .string text => text
  | _ => none

def flag? : Json → Option Bool
  | .bool value => some value
  | _ => none

def items? : Json → Option (List Json)
  | .array items => some items
  | _ => none

/-- A number below `2 ^ 64`, written with digits alone. -/
def index? : Json → Option Nat
  | .number lexeme =>
    let digits := lexeme.toList
    if digits.all Char.isDigit && digitsValue digits < indexLimit then some (digitsValue digits)
    else none
  | _ => none

def listOf? {α : Type} (decode : Json → Option α) (value : Json) : Option (List α) := do
  (← value.items?).mapM decode

/-- The values of a key, in order. -/
def valuesOf (key : String) (fields : List (Option String × Json)) : List Json :=
  fields.filterMap fun field => if field.1 = some key then some field.2 else none

/-- The value of a key that may be absent and must not be repeated. -/
def once? (fields : List (Option String × Json)) (key : String) : Option (Option Json) :=
  match valuesOf key fields with
  | [] => some none
  | [value] => some (some value)
  | _ => none

/-- The values of a record in the order of its field names. It is written as an object, where other
keys are skipped, or as an array of its values, where the last ones may be left out. -/
def record? (names : List String) : Json → Option (List (Option Json))
  | .object fields => if fields.all (·.1.isSome) then names.mapM (once? fields) else none
  | .array items =>
    if items.length ≤ names.length then
      some (items.map some ++ List.replicate (names.length - items.length) none)
    else none
  | _ => none

/-- A field that may be absent or null. -/
def optional? {α : Type} (decode : Json → Option α) : Option Json → Option (Option α)
  | none => some none
  | some .null => some none
  | some value => (decode value).map some

/-- A field that has a value of its own when it is absent. -/
def orElse? {α : Type} (absent : α) (decode : Json → Option α) : Option Json → Option α
  | none => some absent
  | some value => decode value

end Lanewise.Json
