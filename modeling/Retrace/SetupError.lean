import Retrace.IoError
import Retrace.Text.Numeral

namespace Retrace

/-- The size of every table that is indexed by thread slots. -/
def slotLimit : Nat := 500

/-- What is found wrong before anything is recorded or replayed. -/
inductive SetupError
  | slotOutOfRange (slot : UInt32)
  | missingMode
  | invalidMode (value : String)
  | emptyLogPath
  | logOpen (path : String) (reason : IoError)
  | malformedConfig
  deriving DecidableEq

def SetupError.message : SetupError → String
  | .slotOutOfRange slot =>
    "Thread slot " ++ Numeral.decimal slot.toNat ++ " out of range (limit " ++
      Numeral.decimal slotLimit ++ ")"
  | .missingMode => "Please specify --record-replay=1|2"
  | .invalidMode value => "--record-replay argument can only be 1|2, got '" ++ value ++ "'"
  | .emptyLogPath => "Invalid option --log-file-rr: empty path"
  | .logOpen path reason =>
    "Can't open or create log file for record and replay '" ++ path ++ "' (" ++ reason.message ++ ")"
  | .malformedConfig => "Parse error: not a configuration"

end Retrace
