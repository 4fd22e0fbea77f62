import Retrace.SetupError
import Retrace.Json.Shape

namespace Retrace

/-- A thread slot. Slot 0 is no thread; slot 1 is the first thread of the process. -/
structure ThreadId where
  slot : UInt32
  deriving DecidableEq

namespace ThreadId

/-- No thread; also the header of an acquisition, which is logged while nobody runs. -/
def nobody : ThreadId := ⟨0⟩

def main : ThreadId := ⟨1⟩

instance : Inhabited ThreadId := ⟨nobody⟩

def isValid (t : ThreadId) : Bool := t.slot != 0

def isMain (t : ThreadId) : Bool := t.slot == 1

/-- The place of a thread in a slot table. -/
def index (t : ThreadId) : Nat := t.slot.toNat

/-- The thread in a slot, if the slot tables have that slot. -/
def checked (slot : UInt32) : Except SetupError ThreadId :=
  if slot.toNat < slotLimit then .ok ⟨slot⟩ else .error (.slotOutOfRange slot)

def text (t : ThreadId) : String := "tid" ++ Numeral.decimal t.slot.toNat

def toJson (t : ThreadId) : Json := .nat t.slot.toNat

def ofJson? (value : Json) : Option ThreadId := value.uint32?.map ThreadId.mk

end ThreadId

/-- The number the kernel gave a thread. -/
structure KernelTid where
  number : UInt32
  deriving DecidableEq

namespace KernelTid

def text (t : KernelTid) : String := "lwp" ++ Numeral.decimal t.number.toNat

def toJson (t : KernelTid) : Json := .nat t.number.toNat

def ofJson? (value : Json) : Option KernelTid := value.uint32?.map KernelTid.mk

end KernelTid

end Retrace
