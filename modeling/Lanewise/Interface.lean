import Lanewise.Error
import Lanewise.Event
import Lanewise.Json.Record
import Lanewise.Json.Writer
import Lanewise.Object.Basic
import Lanewise.Text.Blank

namespace Lanewise

/-- The number of elements of each type that has one. -/
abbrev TypeSizes := String → Option Nat

/-- The types of the shading language. -/
def builtinSizes : TypeSizes := fun type =>
  [("bool", 1), ("int", 1), ("float", 1), ("bvec2", 2), ("bvec3", 3), ("bvec4", 4), ("ivec2", 2),
    ("ivec3", 3), ("ivec4", 4), ("vec2", 2), ("vec3", 3), ("vec4", 4), ("mat2", 4), ("mat3", 9),
    ("mat4", 16), ("sampler2D", 1), ("samplerCube", 1)].lookup type

/-- A table of sizes given as an object, in which the last of repeated keys counts. -/
def sizesOfJson? : Json → Option TypeSizes
  | .object fields => do
    let sizes ← fields.mapM fun (key, value) => do some (← key, ← value.index?)
    some fun type => sizes.reverse.lookup type
  | _ => none

/-- Where an interface variable lies in its section. -/
structure Span where
  start : Nat
  size : Nat
  deriving DecidableEq, Repr

/-- A variable with its place. -/
structure Binding where
  qualifier : Qualifier
  name : String
  span : Span
  deriving DecidableEq, Repr

/-- Variables in the order in which their names first came up. -/
abbrev Places := List (String × Span)

/-- Gives a name a place. A known name stays where it stands. -/
def Places.put (name : String) (span : Span) : Places → Places
  | [] => [(name, span)]
  | (other, old) :: places =>
    if other = name then (name, span) :: places else (other, old) :: Places.put name span places

/-- The interface variables of a program. -/
structure Interface where
  uniforms : Places := []
  attributes : Places := []
  varyings : Places := []
  deriving DecidableEq, Repr

/-- The digits behind the last `@` of a label, spaces around them aside. -/
def Declaration.offset (d : Declaration) : Except ObjectError Nat :=
  let chars := d.label.toList
  let offset? : Option Nat :=
    if chars.contains '@' then
      (readIndexChars (Text.trimBlank (chars.reverse.takeWhile (· != '@')).reverse)).toOption
    else none
  match offset? with
  | some offset => .ok offset
  | none => .error (.malformedLocation d.name d.label)

def Declaration.bind (sizes : TypeSizes) (q : Qualifier) (d : Declaration) :
    Except ObjectError Binding := do
  let start ← d.offset
  match sizes d.type with
  | some size => return ⟨q, d.name, ⟨start, size⟩⟩
  | none => .error (.unknownType d.name d.type)

/-- The places of all declared variables; the first declaration at fault refuses them all. -/
def Declarations.bindings (sizes : TypeSizes) (ds : Declarations) :
    Except ObjectError (List Binding) :=
  ds.toList.mapM fun (q, d) => d.bind sizes q

namespace Interface

def of (interface : Interface) : Qualifier → Places
  | .uniform => interface.uniforms
  | .attribute => interface.attributes
  | .varying => interface.varyings

def get? (interface : Interface) (q : Qualifier) (name : String) : Option Span :=
  (interface.of q).lookup name

def insert (interface : Interface) (q : Qualifier) (name : String) (span : Span) : Interface :=
  match q with
  | .uniform => { interface with uniforms := interface.uniforms.put name span }
  | .attribute => { interface with attributes := interface.attributes.put name span }
  | .varying => { interface with varyings := interface.varyings.put name span }

def isEmpty (interface : Interface) : Bool :=
  Qualifier.all.all fun q => (interface.of q).isEmpty

def insertAll (interface : Interface) (bindings : List Binding) : Interface :=
  bindings.foldl (fun interface b => interface.insert b.qualifier b.name b.span) interface

/-- Adds the declared variables, all of them or none. -/
def merge (interface : Interface) (sizes : TypeSizes) (ds : Declarations) :
    Except ObjectError Unit × Interface :=
  match ds.bindings sizes with
  | .ok bindings => (.ok (), interface.insertAll bindings)
  | .error e => (.error e, interface)

def toJson (interface : Interface) : Json :=
  .ofFields (Qualifier.all.map fun q => (q.name, .ofFields ((interface.of q).map fun (name, span) =>
    (name, .ofFields [("start", .ofIndex span.start), ("size", .ofIndex span.size)]))))

def render (interface : Interface) : String := interface.toJson.render

end Interface

def Binding.event (b : Binding) : Event :=
  ⟨.debug, "Register " ++ b.qualifier.name ++ " " ++ b.name ++ " at " ++ toString b.span.start ++
    " (size " ++ toString b.span.size ++ ")"⟩

/-- What merging declarations has to say. -/
def Declarations.events (sizes : TypeSizes) (ds : Declarations) : List Event :=
  match ds.bindings sizes with
  | .ok bindings => bindings.map Binding.event
  | .error _ => []

end Lanewise
