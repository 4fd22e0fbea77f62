import Retrace.Guest.Memory
import Retrace.Session.Basic

namespace Retrace.Session

/-- Only the thread that runs may make some of the calls. -/
def checkRunning (s : Session) (caller : ThreadId) : Except SessionError Unit :=
  if caller ≠ s.running then .error (.notRunning caller s.running) else .ok ()

/-- The command line of the client. Replaying gives the recorded one. -/
def clientCmdline (s : Session) (live : Guest.CommandLine) :
    Except SessionError Guest.CommandLine × Session :=
  if s.isClosed then (.error .closed, s)
  else
    match s.channel with
    | .inactive => (.ok live, s)
    | .record writer =>
      let text := Utf8.encodeText live.joined
      if Log.cmdlineLimit ≤ text.length then (.error (.cmdlineTooLong text.length), s)
      else
        match writer.append ⟨s.running, .clientCmdline (UInt32.ofNat text.length)⟩ text with
        | (.ok (), writer) => (.ok live, { s with channel := .record writer })
        | (.error e, writer) => (.error (.log e), { s with channel := .record writer })
    | .replay reader =>
      match reader.resolveCmdline ⟨s.running, .clientCmdline 0⟩ with
      | (.ok (_, text), reader) => (.ok (.parse text), { s with channel := .replay reader })
      | (.error e, reader) => (.error (.desync e), { s with channel := .replay reader })

/-- Gives a thread the numbers that the log and the kernel know it by. -/
def identify (s : Session) (child : ThreadId) (recorded kernel : KernelTid) :
    Except SessionError KernelTid × Session :=
  match s.identities.create child recorded kernel with
  | .ok identities => (.ok recorded, { s with identities })
  | .error e => (.error e, s)

/-- A new thread. Gives the number to show to the client, which is the recorded one when replaying. -/
def threadCreate (s : Session) (parent child : ThreadId) (kernel : KernelTid) :
    Except SessionError KernelTid × Session :=
  if !s.mode.isActive then (.ok kernel, s)
  else
    match s.checkRunning parent with
    | .error e => (.error e, s)
    | .ok () =>
      match s.process ⟨s.running, .threadCreate child kernel⟩ with
      | (.error e, s) => (.error e, s)
      | (.ok resolved, s) =>
        match s.mode, resolved.body with
        | .replay, .threadCreate _ recorded => s.identify child recorded kernel
        | _, _ => (.ok kernel, s)

/-- Counts and reports what differs between two register images. -/
def compare (s : Session) (live recorded : Bytes) : Session :=
  let (_, warnings, verifier) := s.verifier.compare s.running live recorded
  { s with verifier }.report warnings

/-- The register image: recorded, or compared with the recorded one. -/
def snapshot (s : Session) (live : Bytes) : Except SessionError Unit × Session :=
  if s.isClosed then (.error .closed, s)
  else if !s.mode.isActive then (.ok (), s)
  else
    match s.verifier.checkLength live with
    | .error e => (.error e, s)
    | .ok () =>
      let buffer := if s.mode.isReplay then Verifier.scratch live.length else live
      match s.processData (.snapshot s.running live.length) buffer with
      | (.error e, _, s) => (.error e, s)
      | (.ok _, recorded, s) => (.ok (), if s.mode.isReplay then s.compare live recorded else s)

/-- A system call that is about to be made, with the registers before it. -/
def syscallArgs (s : Session) (thread : ThreadId) (sysno : UInt32) (registers : Bytes) :
    Except SessionError Unit × Session :=
  if !s.mode.isActive then (.ok (), s)
  else
    match s.checkRunning thread with
    | .error e => (.error e, s)
    | .ok () =>
      match s.process (.syscallArgs thread sysno) with
      | (.error e, s) => (.error e, s)
      | (.ok _, s) => s.snapshot registers

/-- The value the kernel returned. -/
def syscallRet (s : Session) (value : UInt64) : Except SessionError Unit × UInt64 × Session :=
  if !s.mode.isActive then (.ok (), value, s)
  else
    match s.process (.syscallRet s.running value) with
    | (.error e, s) => (.error e, value, s)
    | (.ok ⟨_, .syscallRet value⟩, s) => (.ok (), value, s)
    | (.ok _, s) => (.ok (), value, s)

/-- Sends memory regions through the log, an entry each, up to the first error. -/
def processRegions (s : Session) :
    List Guest.Memory → Except SessionError Unit × List Guest.Memory × Session
  | [] => (.ok (), [], s)
  | region :: rest =>
    match s.processData (.data s.running region.bytes.length region.base) region.bytes with
    | (.error e, bytes, s) => (.error e, { region with bytes } :: rest, s)
    | (.ok _, bytes, s) =>
      let (result, rest, s) := s.processRegions rest
      (result, { region with bytes } :: rest, s)

/-- The memory that a system call wrote. -/
def syscallMem (s : Session) (regions : List Guest.Memory) :
    Except SessionError Unit × List Guest.Memory × Session :=
  if !s.mode.isActive then (.ok (), regions, s) else s.processRegions regions

/-- Counts, and reports up to the limit, a dispatch counter that is not the recorded one. -/
def checkCounter (s : Session) (before : Bool) (counter recorded : UInt64) : Session :=
  if recorded = counter then s
  else
    let warnings :=
      if s.dispatchMismatches < s.config.reportLimit.toNat then
        [.dispatchCounter s.running before counter recorded]
      else []
    { s with dispatchMismatches := s.dispatchMismatches + 1 }.report warnings

/-- How many blocks were dispatched, on one side of a system call. -/
def dispatchCounter (s : Session) (counter : UInt64) (before : Bool) :
    Except SessionError Unit × Session :=
  if !s.mode.isActive then (.ok (), s)
  else
    match s.process ⟨s.running, .dispatchCounter before counter⟩ with
    | (.error e, s) => (.error e, s)
    | (.ok ⟨_, .dispatchCounter _ recorded⟩, s) => (.ok (), s.checkCounter before counter recorded)
    | (.ok _, s) => (.ok (), s)

/-- The stack must end with a page, and the managed region begin with one. -/
def checkLayout (vstart stackTop : UInt64) : Except SessionError Unit :=
  if !Guest.isPageAligned (stackTop + 1) then .error (.misaligned .stackTopEnd (stackTop + 1))
  else if !Guest.isPageAligned vstart then .error (.misaligned .vstart vstart)
  else .ok ()

/-- The start of the managed region and the top of the client stack. -/
def initMemLayout (s : Session) (vstart stackTop : UInt64) :
    Except SessionError Unit × UInt64 × UInt64 × Session :=
  if !s.mode.isActive then (.ok (), vstart, stackTop, s)
  else
    match s.process ⟨s.running, .initMemLayout vstart stackTop⟩ with
    | (.error e, s) => (.error e, vstart, stackTop, s)
    | (.ok ⟨_, .initMemLayout recordedStart recordedTop⟩, s) =>
      match checkLayout recordedStart recordedTop with
      | .error e => (.error e, vstart, stackTop, s)
      | .ok () => (.ok (), recordedStart, recordedTop, s)
    | (.ok _, s) => (.ok (), vstart, stackTop, s)

/-- The size of a live stack that ends at its top; a record has 32 bits for it. -/
def stackSize? (stackTop initialSp : UInt64) : Option UInt32 :=
  if initialSp ≤ stackTop ∧ (stackTop - initialSp).toNat < UInt32.size then
    some (stackTop - initialSp).toUInt32
  else none

/-- The image of a stack of a recorded size. -/
def recordedImage? (stackTop : UInt64) (size : UInt32) (auxv : UInt64) : Option Guest.StackImage :=
  if size.toUInt64 ≤ stackTop then
    let initialSp := stackTop - size.toUInt64
    some { initialSp, auxv, stackEnd := stackTop, stackBase := Guest.pageDown initialSp }
  else none

/-- Sends the bytes of a stack through the log. -/
def processStack (s : Session) (addr : UInt64) (size : UInt32) (memory : Guest.Memory) :
    Except SessionError Unit × Guest.Memory × Session :=
  match memory.read? addr size.toNat with
  | none => (.error (.guestMemory addr size.toNat), memory, s)
  | some bytes =>
    match s.processData (.data s.running size.toNat addr) bytes with
    | (.error e, bytes, s) => (.error e, memory.write addr bytes, s)
    | (.ok _, bytes, s) => (.ok (), memory.write addr bytes, s)

/-- The initial stack of the client. Replaying installs the recorded one below the live top. -/
def initClientStack (s : Session) (stackTop : UInt64) (image : Guest.StackImage)
    (memory : Guest.Memory) : Except SessionError Unit × Guest.StackImage × Guest.Memory × Session :=
  if !s.mode.isActive then (.ok (), image, memory, s)
  else
    let invalid := SessionError.invalidStack stackTop image.initialSp
    let size? := if s.mode.isRecord then stackSize? stackTop image.initialSp else some 0
    match size? with
    | none => (.error invalid, image, memory, s)
    | some size =>
      if stackTop = 0 then (.error invalid, image, memory, s)
      else
        match s.process ⟨s.running, .initClientStack size image.auxv⟩ with
        | (.error e, s) => (.error e, image, memory, s)
        | (.ok ⟨_, .initClientStack size auxv⟩, s) =>
          let image? := if s.mode.isReplay then recordedImage? stackTop size auxv else some image
          match image? with
          | none => (.error invalid, image, memory, s)
          | some image =>
            let (result, memory, s) := s.processStack image.initialSp size memory
            (result, image, memory, s)
        | (.ok _, s) => (.ok (), image, memory, s)

/-- The registers the client starts with. -/
def initGuestState (s : Session) (registers : Bytes) : Except SessionError Unit × Session :=
  if !s.mode.isActive then (.ok (), s) else s.snapshot registers

/-- Whether a timestamp takes the live counter, which a replay never does. -/
def readsCounter (s : Session) : Bool := !s.mode.isReplay

/-- A read of the timestamp counter. -/
def timestamp (s : Session) (counter : UInt64) : Except SessionError UInt64 × Session :=
  let live := if s.readsCounter then counter else 0
  if !s.mode.isActive then (.ok live, s)
  else
    match s.process ⟨s.running, .timestamp live.toUInt32 (live >>> 32).toUInt32⟩ with
    | (.error e, s) => (.error e, s)
    | (.ok ⟨_, .timestamp low high⟩, s) => (.ok ((high.toUInt64 <<< 32) ||| low.toUInt64), s)
    | (.ok _, s) => (.ok live, s)

/-- What the kernel calls a recorded thread in this run. -/
def kernelOf? (s : Session) (recorded : KernelTid) : Option KernelTid :=
  s.identities.kernelOf? recorded

/-- What a thread of this run was called when it was recorded. -/
def recordedOf? (s : Session) (kernel : KernelTid) : Option KernelTid :=
  s.identities.recordedOf? kernel

/-- Tells how to see that a thread is gone. -/
def registerProbe (s : Session) (slot : ThreadId) (probe : ExitProbe) :
    Except SessionError Unit × Session :=
  match s.identities.registerProbe slot probe with
  | .ok identities => (.ok (), { s with identities })
  | .error e => (.error e, s)

end Retrace.Session
