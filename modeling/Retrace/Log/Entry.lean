import Retrace.Thread
import Retrace.Log.Kind
import Retrace.Log.ReleaseTag

namespace Retrace.Log

inductive Body
  /-- A system call is about to be made. -/
  | syscallArgs (caller : ThreadId) (sysno : UInt32)
  | syscallRet (value : UInt64)
  /-- How many blocks were dispatched, before or after a system call. -/
  | dispatchCounter (before : Bool) (counter : UInt64)
  | threadCreate (child : ThreadId) (kernelTid : KernelTid)
  /-- A thread starts to run. -/
  | acquire (holder : ThreadId) (callerClass : CallerClass)
  /-- A thread stops running. -/
  | release (tag : ReleaseTag)
  | timestamp (low high : UInt32)
  | clientCmdline (len : UInt32)
  | initClientStack (stackSize : UInt32) (auxv : UInt64)
  | initMemLayout (vstart stackTop : UInt64)
  /-- Memory that a system call wrote, or the initial stack. -/
  | data (len addr : UInt64)
  /-- A register image. -/
  | snapshot (len : UInt64)
  deriving DecidableEq, Inhabited

namespace Body

def kind : Body → Kind
  | syscallArgs .. => .syscallArgs
  | syscallRet .. => .syscallRet
  | dispatchCounter .. => .dispatchCounter
  | threadCreate .. => .threadCreate
  | acquire .. => .acquire
  | release .. => .release
  | timestamp .. => .timestamp
  | clientCmdline .. => .clientCmdline
  | initClientStack .. => .initClientStack
  | initMemLayout .. => .initMemLayout
  | data .. => .data
  | snapshot .. => .snapshot

/-- How many bytes follow the record. -/
def payloadLength : Body → Nat
  | clientCmdline len => len.toNat
  | data len _ => len.toNat
  | snapshot len => len.toNat
  | _ => 0

theorem payloadLength_of_not_hasPayload {body : Body} (h : body.kind.hasPayload = false) :
    body.payloadLength = 0 := by
  cases body <;> simp_all [kind, Kind.hasPayload, payloadLength]

def hexWord (n : Nat) : String := "0x" ++ Numeral.hex n

/-- The fields as one line of text, a blank before each. -/
def text : Body → String
  | syscallArgs _ sysno => " sysno=" ++ Numeral.decimal sysno.toNat
  | syscallRet value => " ret=" ++ hexWord value.toNat
  | dispatchCounter before counter =>
    (if before then " before ctr=" else " after ctr=") ++ Numeral.decimal counter.toNat
  | threadCreate child kernelTid => " child=" ++ child.text ++ " " ++ kernelTid.text
  | acquire holder callerClass => " -> " ++ holder.text ++ " (" ++ callerClass.name ++ ")"
  | release tag => " who=" ++ tag.text
  | timestamp low high =>
    " tsc=0x" ++ Numeral.paddedHex 8 high.toNat ++ Numeral.paddedHex 8 low.toNat
  | clientCmdline len => " len=" ++ Numeral.decimal len.toNat
  | initClientStack stackSize auxv =>
    " stksz=" ++ Numeral.decimal stackSize.toNat ++ " auxv=" ++ hexWord auxv.toNat
  | initMemLayout vstart stackTop =>
    " vstart=" ++ hexWord vstart.toNat ++ " clstk_top=" ++ hexWord stackTop.toNat
  | data len addr => " len=" ++ Numeral.decimal len.toNat ++ " addr=" ++ hexWord addr.toNat
  | snapshot len => " len=" ++ Numeral.decimal len.toNat

end Body

structure Entry where
  thread : ThreadId
  body : Body
  deriving DecidableEq, Inhabited

namespace Entry

def kind (e : Entry) : Kind := e.body.kind

def payloadLength (e : Entry) : Nat := e.body.payloadLength

def text (e : Entry) : String := e.thread.text ++ " " ++ e.kind.name ++ e.body.text

def syscallArgs (thread : ThreadId) (sysno : UInt32) : Entry := ⟨thread, .syscallArgs thread sysno⟩

def syscallRet (thread : ThreadId) (value : UInt64) : Entry := ⟨thread, .syscallRet value⟩

def release (thread : ThreadId) (tag : ReleaseTag) : Entry := ⟨thread, .release tag⟩

/-- An acquisition is logged while nobody runs. -/
def acquire (holder : ThreadId) (callerClass : CallerClass) : Entry :=
  ⟨.nobody, .acquire holder callerClass⟩

def data (thread : ThreadId) (len : Nat) (addr : UInt64) : Entry :=
  ⟨thread, .data (UInt64.ofNat len) addr⟩

def snapshot (thread : ThreadId) (len : Nat) : Entry := ⟨thread, .snapshot (UInt64.ofNat len)⟩

end Entry

end Retrace.Log
