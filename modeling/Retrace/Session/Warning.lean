import Retrace.Guest.Registers
import Retrace.Log.Desync

namespace Retrace

/-- What is reported and does not stop anything. -/
inductive Warning
  | register (thread : ThreadId) (mismatch : Guest.FieldMismatch)
  | dispatchCounter (thread : ThreadId) (before : Bool) (runtime recorded : UInt64)
  | stillExiting (thread : ThreadId)
  | finalSync (reason : Log.LogError)
  | malformedTail (reason : Log.LogError)
  deriving DecidableEq

def Warning.message : Warning → String
  | .register _ m =>
    "Guest " ++ m.name ++ " not expected. runtime/recorded=0x" ++ Numeral.hex m.runtime.toNat ++ "/0x" ++
      Numeral.hex m.recorded.toNat
  | .dispatchCounter _ _ runtime recorded =>
    "Syscall dispatch counter not expected. runtime/recorded=" ++ Numeral.decimal runtime.toNat ++ "/" ++
      Numeral.decimal recorded.toNat
  | .stillExiting _ => "thread has been waited on long enough to exit but does not seem done"
  | .finalSync _ => "final log sync failed"
  | .malformedTail _ => "log ends in a malformed record"

end Retrace
