import Lanewise.Json.Reader
import Lanewise.Json.Record
import Lanewise.Json.Writer
import Lanewise.Storage

namespace Lanewise

/-- The settings of a program. -/
structure Options where
  capacities : Capacities := {}
  /-- Whether each instruction stands as a comment above its statements. -/
  traceComments : Bool := true
  deriving DecidableEq, Repr

namespace Capacities

def ofJson? (value : Json) : Option Capacities := do
  let size? (region : Region) := Json.orElse? (({} : Capacities).of region) Json.index?
  match ← value.record? (Region.all.map Region.name) with
  | [uniforms, attributes, varyings, results, temps, scratch] =>
    some ⟨← size? .uniform uniforms, ← size? .attribute attributes, ← size? .varying varyings,
      ← size? .result results, ← size? .temp temps, ← size? .scratch scratch⟩
  | _ => none

def toJson (sizes : Capacities) : Json :=
  .ofFields (Region.all.map fun region => (region.name, .ofIndex (sizes.of region)))

end Capacities

namespace Options

def ofJson? (value : Json) : Option Options := do
  match ← value.record? ["layout", "trace_comments"] with
  | [capacities, traceComments] =>
    some ⟨← Json.orElse? {} Capacities.ofJson? capacities,
      ← Json.orElse? true Json.flag? traceComments⟩
  | _ => none

def toJson (options : Options) : Json :=
  .ofFields [("layout", options.capacities.toJson), ("trace_comments", .bool options.traceComments)]

def parse? (s : String) : Option Options := do
  ofJson? (← Json.parse s)

def render (options : Options) : String := options.toJson.render

end Options

end Lanewise
