import Retrace.IoError
import Retrace.Log.Kind

namespace Retrace.Log

/-- Why a log could not be read or written. -/
inductive LogError
  | io (reason : IoError)
  /-- A record whose tag is that of no kind. -/
  | unknownKind (tag : UInt32)
  /-- A record with a value that its kind does not allow. -/
  | invalidField (kind : Kind) (field : String) (value : Nat)
  /-- A payload of another length than its entry declares. -/
  | payloadLength (kind : Kind) (declared actual : Nat)
  /-- A log that ends inside a record or a payload. -/
  | truncated (expected found : Nat)
  deriving DecidableEq

def LogError.message : LogError → String
  | .io reason => "log I/O error: " ++ reason.message
  | .unknownKind tag => "bad log entry: unknown kind " ++ Numeral.decimal tag.toNat
  | .invalidField kind field value =>
    "bad log entry: invalid " ++ field ++ " in " ++ kind.name ++ " entry: " ++ Numeral.decimal value
  | .payloadLength kind declared actual =>
    "payload of " ++ kind.name ++ " entry is " ++ Numeral.decimal actual ++
      " bytes, record declares " ++ Numeral.decimal declared
  | .truncated expected found =>
    "truncated log: needed " ++ Numeral.decimal expected ++ " bytes, found " ++ Numeral.decimal found

end Retrace.Log
