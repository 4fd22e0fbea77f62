import Retrace.Session.Error
import Retrace.Session.ExitProbe

namespace Retrace

/-- What a thread slot remembers: the number the kernel gave the thread when it was recorded and the one it has
in this run, and how to tell that the thread is gone. -/
structure Identity where
  recorded : Option KernelTid := none
  kernel : Option KernelTid := none
  probe : Option ExitProbe := none
  deriving DecidableEq, Inhabited

/-- Whether the slot holds numbers. -/
def Identity.isOccupied (i : Identity) : Bool := i.recorded.isSome || i.kernel.isSome

structure IdentityTable where
  slots : Vector Identity slotLimit

namespace IdentityTable

def empty : IdentityTable := ⟨Vector.replicate slotLimit {}⟩

def get? (t : IdentityTable) (slot : ThreadId) : Option Identity := t.slots[slot.index]?

def set (t : IdentityTable) (slot : ThreadId) (identity : Identity) : IdentityTable :=
  ⟨t.slots.setIfInBounds slot.index identity⟩

/-- The slot of a thread that can be used; slot 0 cannot. -/
def usable (t : IdentityTable) (slot : ThreadId) : Except SessionError Identity :=
  if slot.isValid then
    match t.get? slot with
    | some identity => .ok identity
    | none => .error (.invalidSlot slot)
  else .error (.invalidSlot slot)

/-- Fills a free slot; a probe that was left there goes. -/
def create (t : IdentityTable) (slot : ThreadId) (recorded kernel : KernelTid) :
    Except SessionError IdentityTable := do
  let identity ← t.usable slot
  if identity.isOccupied then throw (.slotOccupied slot)
  return t.set slot { recorded := some recorded, kernel := some kernel }

/-- What the kernel calls a recorded thread in this run. -/
def kernelOf? (t : IdentityTable) (recorded : KernelTid) : Option KernelTid :=
  (t.slots.toList.find? (·.recorded == some recorded)).bind (·.kernel)

/-- What a thread of this run was called when it was recorded. -/
def recordedOf? (t : IdentityTable) (kernel : KernelTid) : Option KernelTid :=
  (t.slots.toList.find? (·.kernel == some kernel)).bind (·.recorded)

/-- Forgets the numbers of a slot and keeps its probe. -/
def clear (t : IdentityTable) (slot : ThreadId) : IdentityTable :=
  match t.get? slot with
  | some identity => t.set slot { probe := identity.probe }
  | none => t

def registerProbe (t : IdentityTable) (slot : ThreadId) (probe : ExitProbe) :
    Except SessionError IdentityTable := do
  let identity ← t.usable slot
  return t.set slot { identity with probe := some probe }

/-- Takes the probe out of a slot. -/
def takeProbe (t : IdentityTable) (slot : ThreadId) : Option ExitProbe × IdentityTable :=
  match t.get? slot with
  | some identity => (identity.probe, t.set slot { identity with probe := none })
  | none => (none, t)

/-- How many slots hold numbers. -/
def occupied (t : IdentityTable) : Nat := t.slots.toList.countP (·.isOccupied)

end IdentityTable

end Retrace
