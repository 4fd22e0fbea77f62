import Retrace.Log.Entry
import Retrace.Log.Error

namespace Retrace.Log

def recordSize : Nat := 24

namespace Body

/-- The fields in order, without the zeros after them. -/
def fieldBytes : Body → Bytes
  | syscallArgs caller sysno => Bytes.ofUInt32 caller.slot ++ Bytes.ofUInt32 sysno
  | syscallRet value => Bytes.ofUInt64 value
  | dispatchCounter before counter =>
    Bytes.ofUInt64 (if before then 1 else 0) ++ Bytes.ofUInt64 counter
  | threadCreate child kernelTid => Bytes.ofUInt32 child.slot ++ Bytes.ofUInt32 kernelTid.number
  | acquire holder callerClass => Bytes.ofUInt32 holder.slot ++ Bytes.ofUInt32 callerClass.wire
  | release tag => tag.bytes
  | timestamp low high => Bytes.ofUInt32 low ++ Bytes.ofUInt32 high
  | clientCmdline len => Bytes.ofUInt32 len
  | initClientStack stackSize auxv =>
    -- The second word stands at its natural alignment.
    Bytes.ofUInt32 stackSize ++ Bytes.zeros 4 ++ Bytes.ofUInt64 auxv
  | initMemLayout vstart stackTop => Bytes.ofUInt64 vstart ++ Bytes.ofUInt64 stackTop
  | data len addr => Bytes.ofUInt64 len ++ Bytes.ofUInt64 addr
  | snapshot len => Bytes.ofUInt64 len

end Body

namespace Entry

/-- The tag of the kind, the thread and the fields, little-endian; bytes that a kind has no use for are zero. -/
def encode (e : Entry) : Bytes :=
  let fields := e.body.fieldBytes
  Bytes.ofUInt32 e.kind.tag ++ Bytes.ofUInt32 e.thread.slot ++ fields ++
    Bytes.zeros (recordSize - 8 - fields.length)

end Entry

namespace Body

/-- The fields of a kind in the last sixteen bytes of a record. -/
def decode (kind : Kind) (bytes : Bytes) : Except LogError Body :=
  match kind with
  | .syscallArgs => .ok (syscallArgs ⟨Bytes.uint32 0 bytes⟩ (Bytes.uint32 4 bytes))
  | .syscallRet => .ok (syscallRet (Bytes.uint64 0 bytes))
  | .dispatchCounter =>
    let phase := Bytes.uint64 0 bytes
    if phase = 0 then .ok (dispatchCounter false (Bytes.uint64 8 bytes))
    else if phase = 1 then .ok (dispatchCounter true (Bytes.uint64 8 bytes))
    else .error (.invalidField kind "is_before" phase.toNat)
  | .threadCreate => .ok (threadCreate ⟨Bytes.uint32 0 bytes⟩ ⟨Bytes.uint32 4 bytes⟩)
  | .acquire =>
    let wire := Bytes.uint32 4 bytes
    match CallerClass.ofWire? wire with
    | some callerClass => .ok (acquire ⟨Bytes.uint32 0 bytes⟩ callerClass)
    | none => .error (.invalidField kind "caller_class" wire.toNat)
  | .release => .ok (release (.ofBytes bytes))
  | .timestamp => .ok (timestamp (Bytes.uint32 0 bytes) (Bytes.uint32 4 bytes))
  | .clientCmdline => .ok (clientCmdline (Bytes.uint32 0 bytes))
  | .initClientStack => .ok (initClientStack (Bytes.uint32 0 bytes) (Bytes.uint64 8 bytes))
  | .initMemLayout => .ok (initMemLayout (Bytes.uint64 0 bytes) (Bytes.uint64 8 bytes))
  | .data => .ok (data (Bytes.uint64 0 bytes) (Bytes.uint64 8 bytes))
  | .snapshot => .ok (snapshot (Bytes.uint64 0 bytes))

end Body

namespace Entry

def decode (record : Bytes) : Except LogError Entry :=
  let tag := Bytes.uint32 0 record
  match Kind.ofTag? tag with
  | none => .error (.unknownKind tag)
  | some kind => (Body.decode kind (record.drop 8)).map fun body => ⟨⟨Bytes.uint32 4 record⟩, body⟩

end Entry

end Retrace.Log
