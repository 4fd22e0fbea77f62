import Retrace.Bytes
import Retrace.Json.Shape

namespace Retrace.Guest

def pageSize : UInt64 := 4096

def isPageAligned (addr : UInt64) : Bool := addr % pageSize == 0

/-- The start of the page an address lies on. -/
def pageDown (addr : UInt64) : UInt64 := addr - addr % pageSize

/-- One accessible range, from `base` on. -/
structure Memory where
  base : UInt64
  bytes : Bytes
  deriving DecidableEq

namespace Memory

def zeroed (base : UInt64) (length : Nat) : Memory := ⟨base, Bytes.zeros length⟩

/-- Where a range begins in the bytes, if all of it is accessible. -/
def offset? (m : Memory) (addr : UInt64) (length : Nat) : Option Nat :=
  let start := addr.toNat - m.base.toNat
  if m.base ≤ addr ∧ start + length ≤ m.bytes.length then some start else none

def read? (m : Memory) (addr : UInt64) (length : Nat) : Option Bytes :=
  (m.offset? addr length).map fun start => Bytes.slice start length m.bytes

/-- Replaces the bytes of an accessible range. -/
def write (m : Memory) (addr : UInt64) (bytes : Bytes) : Memory :=
  match m.offset? addr bytes.length with
  | some start => { m with bytes := m.bytes.take start ++ Bytes.overwrite bytes (m.bytes.drop start) }
  | none => m

end Memory

/-- The client stack as the loader leaves it. -/
structure StackImage where
  initialSp : UInt64
  auxv : UInt64
  stackEnd : UInt64 := 0
  stackBase : UInt64 := 0
  deriving DecidableEq

namespace StackImage

def toJson (image : StackImage) : Json :=
  .record
    [("initial_sp", .nat image.initialSp.toNat), ("auxv", .nat image.auxv.toNat),
     ("stack_end", .nat image.stackEnd.toNat), ("stack_base", .nat image.stackBase.toNat)]

def ofJson? (value : Json) : Option StackImage := do
  match ← (← value.allFields? ["initial_sp", "auxv", "stack_end", "stack_base"]).mapM Json.uint64? with
  | [initialSp, auxv, stackEnd, stackBase] => return { initialSp, auxv, stackEnd, stackBase }
  | _ => none

end StackImage

end Retrace.Guest
