import Lanewise.Storage

namespace Lanewise

/-- The memory of a program: its sections one behind the other. -/
structure Buffer (sizes : Capacities) where
  cells : Vector Float32 sizes.total
  deriving DecidableEq

/-- Addition that stops at the largest index. -/
def saturatingAdd (m n : Nat) : Nat := min (m + n) (indexLimit - 1)

namespace Buffer

variable {sizes : Capacities}

def zero : Buffer sizes := ⟨Vector.replicate sizes.total 0.0⟩

/-- The cell at an absolute index; zero outside. -/
def get (b : Buffer sizes) (index : Nat) : Float32 := b.cells[index]?.getD 0.0

/-- Sets the cell at an absolute index; nothing happens outside. -/
def set (b : Buffer sizes) (index : Nat) (value : Float32) : Buffer sizes :=
  ⟨b.cells.setIfInBounds index value⟩

/-- The elements of a section. -/
def region (b : Buffer sizes) (region : Region) : List Float32 :=
  (List.range (sizes.of region)).map fun i => b.get (sizes.cell region i)

/-- Sets one element of a section if it has the index. -/
def poke (b : Buffer sizes) (region : Region) (index : Nat) (value : Float32) : Buffer sizes :=
  if index < sizes.of region then b.set (sizes.cell region index) value else b

/-- How many elements a write reaches: those given, up to the limit, as far as the section goes. -/
def writeCount (sizes : Capacities) (region : Region) (start : Nat) (data : List Float32)
    (limit : Nat) : Nat :=
  min (min data.length limit) (sizes.of region - start)

/-- Writes data into a section from an index on; nothing happens if the buffer does not hold it. -/
def write (b : Buffer sizes) (region : Region) (start : Nat) (data : List Float32) (limit : Nat) :
    Buffer sizes :=
  if sizes.holds region then
    (data.take (writeCount sizes region start data limit)).zipIdx.foldl
      (fun b (value, i) => b.set (sizes.cell region (start + i)) value) b
  else b

/-- Where a read begins and ends in a section of some length. -/
def readBounds (length start size : Nat) : Nat × Nat :=
  let first := min start length
  (first, min (saturatingAdd first size) length)

/-- The elements of a section from `start` on, at most `size` of them; none if the buffer does not
hold it. -/
def read (b : Buffer sizes) (region : Region) (start size : Nat) : List Float32 :=
  if sizes.holds region then
    let bounds := readBounds (sizes.of region) start size
    ((b.region region).take bounds.2).drop bounds.1
  else []

end Buffer

end Lanewise
