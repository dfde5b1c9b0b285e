import Lanewise.Number.Reader
import Lanewise.Text.Casing

namespace Lanewise

/-- How a shader declares an interface variable. -/
inductive Qualifier where
  | uniform
  | attribute
  | varying
  deriving DecidableEq, Repr

/-- A section of the shared buffer. -/
inductive Region where
  | uniform
  | attribute
  | varying
  | result
  | temp
  | scratch
  deriving DecidableEq, Repr

/-- One of the two programs of a shader. -/
inductive Stage where
  | vertex
  | fragment
  deriving DecidableEq, Repr

namespace Qualifier

def all : List Qualifier := [.uniform, .attribute, .varying]

def name : Qualifier → String
  | .uniform => "uniform"
  | .attribute => "attribute"
  | .varying => "varying"

/-- The section that holds the variables of a qualifier. -/
def region : Qualifier → Region
  | .uniform => .uniform
  | .attribute => .attribute
  | .varying => .varying

end Qualifier

namespace Stage

def name : Stage → String
  | .vertex => "vertex"
  | .fragment => "fragment"

/-- A stage by its full or its short name, capitals or not; the name in small letters if there is
none. -/
def ofName (name : String) : Except String Stage :=
  let name := Text.lower name
  if name = "vertex" || name = "vs" then .ok .vertex
  else if name = "fragment" || name = "fs" then .ok .fragment
  else .error name

def unknownMessage (name : String) : String := "unknown stage: " ++ name

end Stage

/-- What the name of an array in generated code adds to the name of its storage. -/
def arraySuffix : List Char := ['_', 'f', '3', '2']

def hasArraySuffix (name : String) : Bool := arraySuffix.isSuffixOf name.toList

/-- The array of a storage name; the name of an array stays as it is. -/
def arrayName (name : String) : String :=
  if hasArraySuffix name then name else String.ofList (name.toList ++ arraySuffix)

/-- The storage name without the ending of an array. -/
def storageName (name : String) : String :=
  if hasArraySuffix name then String.ofList (name.toList.take (name.length - arraySuffix.length))
  else name

namespace Region

/-- The sections in the order of the buffer. -/
def all : List Region := [.uniform, .attribute, .varying, .result, .temp, .scratch]

def name : Region → String
  | .uniform => "uniform"
  | .attribute => "attribute"
  | .varying => "varying"
  | .result => "result"
  | .temp => "temp"
  | .scratch => "scratch"

def array (region : Region) : String := arrayName region.name

/-- The section behind a storage name or the name of its array. -/
def ofName? (name : String) : Option Region :=
  all.find? (·.name == storageName name)

end Region

/-- The number of elements in each section. -/
structure Capacities where
  uniforms : Nat := 128
  attributes : Nat := 128
  varyings : Nat := 128
  results : Nat := 128
  temps : Nat := 128
  scratch : Nat := 4
  deriving DecidableEq, Repr

namespace Capacities

def of (sizes : Capacities) : Region → Nat
  | .uniform => sizes.uniforms
  | .attribute => sizes.attributes
  | .varying => sizes.varyings
  | .result => sizes.results
  | .temp => sizes.temps
  | .scratch => sizes.scratch

/-- The number of elements in the sections before another. -/
def before (sizes : Capacities) (region : Region) : Nat :=
  ((Region.all.takeWhile (· != region)).map sizes.of).foldr (· + ·) 0

/-- The number of elements in all sections. -/
def sum (sizes : Capacities) : Nat :=
  (Region.all.map sizes.of).foldr (· + ·) 0

/-- Where a section starts in the buffer, counted in 64 bits. -/
def offset (sizes : Capacities) (region : Region) : Nat := sizes.before region % indexLimit

/-- The length of the buffer, counted in 64 bits. -/
def total (sizes : Capacities) : Nat := sizes.sum % indexLimit

/-- The index in the buffer of an element of a section, counted in 64 bits. -/
def cell (sizes : Capacities) (region : Region) (index : Nat) : Nat :=
  (sizes.offset region + index) % indexLimit

/-- Whether a section lies in the buffer, its end counted in 64 bits like its start. Otherwise it
cannot be taken out of the buffer. -/
def holds (sizes : Capacities) (region : Region) : Bool :=
  let last := sizes.cell region (sizes.of region)
  sizes.offset region ≤ last && last ≤ sizes.total

end Capacities

end Lanewise
