import Retrace.Log.Entry
import Retrace.Log.Error

namespace Retrace.Log

/-- The longest command line a log may hold has fewer bytes. -/
def cmdlineLimit : Nat := 4096

/-- The three ways to resolve an entry, told apart by what follows its record. -/
inductive Resolver
  | plain
  | data
  | cmdline
  deriving DecidableEq

def Resolver.name : Resolver → String
  | plain => "resolve"
  | data => "resolve_data"
  | cmdline => "resolve_cmdline"

/-- How a replaying run and its log part ways. -/
inductive Desync
  | kindMismatch (expected recorded : Kind)
  | threadMismatch (kind : Kind) (expected recorded : ThreadId)
  | syscallMismatch (expected recorded : UInt32)
  | releaseTagMismatch (expected recorded : ReleaseTag)
  | lengthMismatch (kind : Kind) (expected recorded : UInt64)
  | dispatchPhaseMismatch (expected recorded : Bool)
  | slotOutOfRange (slot : UInt32)
  | cmdlineLength (len : Nat)
  | bufferLength (kind : Kind) (declared buffer : Nat)
  | wrongResolver (kind : Kind) (resolver : Resolver)
  | endOfLog
  | log (reason : LogError)
  deriving DecidableEq

namespace Desync

/-- What the run did, what was recorded, and which entry it was about. -/
def unexpected (subject expected recorded detail : String) : String :=
  "Log entry not expected. " ++ subject ++ ": runtime/recorded=" ++ expected ++ "/" ++ recorded ++ detail

def phaseText (before : Bool) : String := if before then "true" else "false"

def message : Desync → String
  | kindMismatch expected recorded => unexpected "Log type" expected.name recorded.name ""
  | threadMismatch kind expected recorded =>
    unexpected "Thread id" expected.text recorded.text (" (" ++ kind.name ++ ")")
  | syscallMismatch expected recorded =>
    unexpected "Syscall number" (Numeral.decimal expected.toNat) (Numeral.decimal recorded.toNat) ""
  | releaseTagMismatch expected recorded => unexpected "Release" expected.text recorded.text ""
  | lengthMismatch kind expected recorded =>
    unexpected "Data len" (Numeral.decimal expected.toNat) (Numeral.decimal recorded.toNat)
      (" (" ++ kind.name ++ ")")
  | dispatchPhaseMismatch expected recorded =>
    unexpected "Dispatch counter phase" (phaseText expected) (phaseText recorded) ""
  | slotOutOfRange slot => "thread id number too big: " ++ Numeral.decimal slot.toNat
  | cmdlineLength len => "Unsupported client command line length " ++ Numeral.decimal len
  | bufferLength kind declared buffer =>
    kind.name ++ " template declares " ++ Numeral.decimal declared ++ " bytes but the buffer holds " ++
      Numeral.decimal buffer
  | wrongResolver kind resolver => kind.name ++ " entry cannot be resolved with " ++ resolver.name
  | endOfLog => "replay log exhausted"
  | log reason => reason.message

end Desync

end Retrace.Log
