import Retrace.Session.Error

namespace Retrace

inductive Turn
  /-- Nobody has run yet. -/
  | notStarted
  | scheduled (thread : ThreadId) (callerClass : Log.CallerClass)
  /-- The log names nobody else. -/
  | exhausted
  deriving DecidableEq, Inhabited

/-- The answer to a thread that asks to run. -/
inductive Admission
  /-- It is the first thread of all, which is not logged. -/
  | first
  | admitted
  | notYet
  deriving DecidableEq

structure Schedule where
  turn : Turn := .notStarted
  /-- The thread that stopped for good and may not be gone yet. -/
  exiting : Option ThreadId := none
  deriving DecidableEq

namespace Schedule

def started (s : Schedule) : Bool := s.turn != .notStarted

/-- Whether a thread may run now. Its class matters only in its turn. -/
def answer (s : Schedule) (thread : ThreadId) (callerClass : Log.CallerClass) :
    Except SessionError Admission :=
  match s.turn with
  | .notStarted => if thread.isMain then .ok .first else .error (.firstAcquireNotMain thread)
  | .scheduled next recorded =>
    if next ≠ thread then .ok .notYet
    else if recorded ≠ callerClass then .error (.callerClassMismatch thread callerClass recorded)
    else .ok .admitted
  | .exhausted => .error (.scheduleExhausted thread)

/-- The main thread runs first. -/
def start (s : Schedule) : Schedule := { s with turn := .scheduled .main .normal }

def schedule (s : Schedule) (thread : ThreadId) (callerClass : Log.CallerClass) : Schedule :=
  { s with turn := .scheduled thread callerClass }

def exhaust (s : Schedule) : Schedule := { s with turn := .exhausted }

def markExiting (s : Schedule) (thread : ThreadId) : Schedule := { s with exiting := some thread }

def takeExiting (s : Schedule) : Option ThreadId × Schedule := (s.exiting, { s with exiting := none })

end Schedule

end Retrace
