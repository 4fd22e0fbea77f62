import Retrace.SetupError
import Retrace.Text.Blank
import Retrace.Json.Shape

namespace Retrace

/-- What a session does with its log, for as long as it lives. -/
inductive Mode
  | inactive
  | record
  | replay
  deriving DecidableEq, Inhabited

namespace Mode

/-- Reads the number of an option: 1 records and 2 replays, with blanks around it or not. -/
def ofOption (value : String) : Except SetupError Mode :=
  let value := Blank.trim value
  if value = "1" then .ok .record
  else if value = "2" then .ok .replay
  else .error (.invalidMode value)

def isRecord (mode : Mode) : Bool := mode == .record

def isReplay (mode : Mode) : Bool := mode == .replay

def isActive (mode : Mode) : Bool := mode != .inactive

def name : Mode → String
  | .inactive => "inactive"
  | .record => "record"
  | .replay => "replay"

def ofName? (name : String) : Option Mode :=
  [inactive, record, replay].find? (·.name == name)

def toJson (mode : Mode) : Json := .text mode.name

def ofJson? (value : Json) : Option Mode := value.choice?.bind ofName?

end Mode

end Retrace
