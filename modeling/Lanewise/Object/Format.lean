import Lanewise.Json.Reader
import Lanewise.Json.Record
import Lanewise.Json.Writer
import Lanewise.Object.Basic

namespace Lanewise

/-- How deep arrays and objects of a text may nest. -/
def nestingLimit : Nat := 127

namespace Operand

/-- An operand is a literal if it has one `raw` text, whatever else it has. -/
def ofFields? (fields : List (Option String × Json)) : Option Operand :=
  match Json.valuesOf "raw" fields with
  | [.string (some text)] => some (.literal text)
  | _ => do
    let name ← (← Json.once? fields "name") >>= Json.text?
    let address ← (← Json.once? fields "address") >>= Json.index?
    let swizzle ← Json.optional? Json.text? (← Json.once? fields "swizzle")
    some (.register name address swizzle)

/-- An operand `outer` levels deep in its text. -/
def ofJson? (outer : Nat) (value : Json) : Option Operand :=
  match value with
  | .object fields =>
    if value.isHoldable (nestingLimit - outer) then ofFields? fields else none
  | _ => none

def toJson : Operand → Json
  | .literal text => .ofFields [("raw", .ofText text)]
  | .register name address swizzle =>
    .ofFields ([("name", .ofText name), ("address", .ofIndex address)] ++
      match swizzle with
      | some letters => [("swizzle", .ofText letters)]
      | none => [])

end Operand

namespace Instruction

def ofJson? (outer : Nat) (value : Json) : Option Instruction := do
  let operand? := Json.optional? (Operand.ofJson? (outer + 1))
  match ← value.record? ["op", "d", "s1", "s2", "s3"] with
  | [op, dest, source1, source2, source3] =>
    some {
      op := ← op >>= Json.text?
      dest := ← operand? dest
      source1 := ← operand? source1
      source2 := ← operand? source2
      source3 := ← operand? source3 }
  | _ => none

def toJson (i : Instruction) : Json :=
  let operand (key : String) (operand : Option Operand) : List (String × Json) :=
    operand.toList.map fun operand => (key, operand.toJson)
  .ofFields ([("op", .ofText i.op)] ++ operand "d" i.dest ++ operand "s1" i.source1 ++
    operand "s2" i.source2 ++ operand "s3" i.source3)

end Instruction

namespace Entry

/-- A comment has its text and nothing else. -/
def comment? : Json → Option String
  | .object [(some "comment", .string (some text))] => some text
  | .array [.string (some text)] => some text
  | _ => none

/-- A comment if it can be one, otherwise an instruction. -/
def ofJson? (outer : Nat) (value : Json) : Option Entry :=
  if value.isHoldable (nestingLimit - outer) then
    match comment? value with
    | some text => some (.comment text)
    | none => (Instruction.ofJson? outer value).map .instruction
  else none

def listOfJson? (outer : Nat) (value : Json) : Option (List Entry) :=
  value.listOf? (ofJson? (outer + 1))

def toJson : Entry → Json
  | .comment text => .ofFields [("comment", .ofText text)]
  | .instruction i => i.toJson

end Entry

namespace Declaration

def ofJson? (value : Json) : Option Declaration := do
  match ← value.record? ["name", "type", "out"] with
  | [name, type, label] =>
    some ⟨← name >>= Json.text?, ← type >>= Json.text?, ← label >>= Json.text?⟩
  | _ => none

def toJson (d : Declaration) : Json :=
  .ofFields [("name", .ofText d.name), ("type", .ofText d.type), ("out", .ofText d.label)]

end Declaration

namespace Declarations

def ofJson? (value : Json) : Option Declarations := do
  let list? := Json.orElse? [] (Json.listOf? Declaration.ofJson?)
  match ← value.record? ["uniform", "attribute", "varying"] with
  | [uniforms, attributes, varyings] =>
    some ⟨← list? uniforms, ← list? attributes, ← list? varyings⟩
  | _ => none

def toJson (ds : Declarations) : Json :=
  .ofFields (Qualifier.all.map fun q => (q.name, .array ((ds.of q).map Declaration.toJson)))

end Declarations

namespace ShaderObject

def ofJson? (value : Json) : Option ShaderObject := do
  match ← value.record? ["symbols", "code"] with
  | [declarations, code] =>
    some ⟨← Json.orElse? {} Declarations.ofJson? declarations,
      ← Json.orElse? [] (Entry.listOfJson? 1) code⟩
  | _ => none

def toJson (object : ShaderObject) : Json :=
  .ofFields [("symbols", object.declarations.toJson),
    ("code", .array (object.code.map Entry.toJson))]

def parse? (s : String) : Option ShaderObject := do
  ofJson? (← Json.parse s)

def render (object : ShaderObject) : String := object.toJson.render

end ShaderObject

end Lanewise
