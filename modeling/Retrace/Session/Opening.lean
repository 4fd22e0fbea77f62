import Retrace.Log.Place
import Retrace.Session.Basic

namespace Retrace.Session

/-- A session on the log that a configuration names, given what stands at its path. -/
def ofPlace (config : Config) (place : Log.Place) : Except SessionError Session :=
  match config.mode with
  | .inactive => .ok (inactive config)
  | .record =>
    match place.create with
    | .ok _ => .ok (recording {} config)
    | .error reason => .error (.setup (.logOpen config.logPath reason))
  | .replay =>
    match place.read with
    | .ok source => .ok (replaying source config)
    | .error reason => .error (.setup (.logOpen config.logPath reason))

end Retrace.Session
