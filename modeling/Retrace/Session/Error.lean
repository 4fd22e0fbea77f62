import Retrace.Guest.CommandLine
import Retrace.Log.Desync

namespace Retrace

/-- A value of the memory layout that must be on a page boundary. -/
inductive LayoutValue
  | stackTopEnd
  | vstart
  deriving DecidableEq

def LayoutValue.name : LayoutValue → String
  | stackTopEnd => "client stack top + 1"
  | vstart => "vstart"

/-- Why a call of a session fails. -/
inductive SessionError
  | setup (reason : SetupError)
  | log (reason : Log.LogError)
  | desync (reason : Log.Desync)
  | firstAcquireNotMain (thread : ThreadId)
  | callerClassMismatch (thread : ThreadId) (runtime recorded : Log.CallerClass)
  | scheduleExhausted (thread : ThreadId)
  | invalidSlot (slot : ThreadId)
  | slotOccupied (slot : ThreadId)
  | notRunning (caller running : ThreadId)
  | misaligned (value : LayoutValue) (addr : UInt64)
  | cmdlineTooLong (len : Nat)
  | invalidStack (stackTop initialSp : UInt64)
  | guestMemory (addr : UInt64) (len : Nat)
  | stateTooShort (len needed : Nat)
  | closed
  deriving DecidableEq

namespace SessionError

def message : SessionError → String
  | setup reason => reason.message
  | log reason => reason.message
  | desync reason => "replay diverged: " ++ reason.message
  | firstAcquireNotMain thread =>
    "first acquisition of the execution token must be by the main thread, not " ++ thread.text
  | callerClassMismatch thread runtime recorded =>
    "caller class not expected for " ++ thread.text ++ ": runtime/recorded=" ++ runtime.name ++ "/" ++
      recorded.name
  | scheduleExhausted thread => "replay schedule exhausted, " ++ thread.text ++ " cannot be admitted"
  | invalidSlot slot => "invalid thread slot " ++ slot.text
  | slotOccupied slot => "thread slot " ++ slot.text ++ " is already in use"
  | notRunning caller running =>
    caller.text ++ " is not the running thread (" ++ running.text ++ ")"
  | misaligned value addr =>
    value.name ++ " 0x" ++ Numeral.hex addr.toNat ++ " is not page aligned"
  | cmdlineTooLong len =>
    "client command line is " ++ Numeral.decimal len ++ " bytes, only lengths below " ++
      Numeral.decimal Log.cmdlineLimit ++ " are supported"
  | invalidStack stackTop initialSp =>
    "invalid client stack: top 0x" ++ Numeral.hex stackTop.toNat ++ ", initial sp 0x" ++
      Numeral.hex initialSp.toNat
  | guestMemory addr len =>
    "guest memory 0x" ++ Numeral.hex addr.toNat ++ "+" ++ Numeral.decimal len ++ " is not accessible"
  | stateTooShort len needed =>
    "register state is " ++ Numeral.decimal len ++ " bytes, layout needs " ++ Numeral.decimal needed
  | closed => "record/replay session is closed"

/-- Whether the process must stop: only what is found before the run leaves the two runs in step. -/
def isFatal : SessionError → Bool
  | setup _ => false
  | _ => true

end SessionError

end Retrace
