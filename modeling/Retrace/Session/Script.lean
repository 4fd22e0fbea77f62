import Retrace.Session.Calls
import Retrace.Session.Token

namespace Retrace

local instance decidableEqResult {ε α : Type} [DecidableEq ε] [DecidableEq α] : DecidableEq (Except ε α)
  | .ok a, .ok b => decidable_of_iff (a = b) ⟨congrArg _, Except.ok.inj⟩
  | .error a, .error b => decidable_of_iff (a = b) ⟨congrArg _, Except.error.inj⟩
  | .ok _, .error _ => isFalse nofun
  | .error _, .ok _ => isFalse nofun

/-- A call, with the live values it brings. -/
inductive Call
  | clientCmdline (live : Guest.CommandLine)
  | threadCreate (parent child : ThreadId) (kernel : KernelTid)
  | syscallArgs (thread : ThreadId) (sysno : UInt32) (registers : Bytes)
  | syscallRet (value : UInt64)
  | syscallMem (regions : List Guest.Memory)
  | dispatchCounter (counter : UInt64) (before : Bool)
  | initMemLayout (vstart stackTop : UInt64)
  | initClientStack (stackTop : UInt64) (image : Guest.StackImage) (memory : Guest.Memory)
  | initGuestState (registers : Bytes)
  | snapshot (registers : Bytes)
  | timestamp (counter : UInt64)
  | registerProbe (slot : ThreadId) (probe : ExitProbe)
  | close
  deriving DecidableEq

/-- What a call returns. -/
inductive Value
  | done
  | commandLine (recorded : Guest.CommandLine)
  | kernelTid (shown : KernelTid)
  | counter (value : UInt64)
  | summary (told : Summary)
  deriving DecidableEq

/-- What a call leaves: its result, the call with what it was brought as it is afterwards, and
whether the live counter was read. -/
structure Reply where
  result : Except SessionError Value
  call : Call
  readsCounter : Bool := false
  deriving DecidableEq

/-- The value of a call that returns none. -/
def Value.ofUnit (_ : Unit) : Value := .done

namespace Session

def perform (s : Session) : Call → Reply × Session
  | .clientCmdline live =>
    let (result, s) := s.clientCmdline live
    ({ result := result.map .commandLine, call := .clientCmdline live }, s)
  | .threadCreate parent child kernel =>
    let (result, s) := s.threadCreate parent child kernel
    ({ result := result.map .kernelTid, call := .threadCreate parent child kernel }, s)
  | .syscallArgs thread sysno registers =>
    let (result, s) := s.syscallArgs thread sysno registers
    ({ result := result.map .ofUnit, call := .syscallArgs thread sysno registers }, s)
  | .syscallRet value =>
    let (result, value, s) := s.syscallRet value
    ({ result := result.map .ofUnit, call := .syscallRet value }, s)
  | .syscallMem regions =>
    let (result, regions, s) := s.syscallMem regions
    ({ result := result.map .ofUnit, call := .syscallMem regions }, s)
  | .dispatchCounter counter before =>
    let (result, s) := s.dispatchCounter counter before
    ({ result := result.map .ofUnit, call := .dispatchCounter counter before }, s)
  | .initMemLayout vstart stackTop =>
    let (result, vstart, stackTop, s) := s.initMemLayout vstart stackTop
    ({ result := result.map .ofUnit, call := .initMemLayout vstart stackTop }, s)
  | .initClientStack stackTop image memory =>
    let (result, image, memory, s) := s.initClientStack stackTop image memory
    ({ result := result.map .ofUnit, call := .initClientStack stackTop image memory }, s)
  | .initGuestState registers =>
    let (result, s) := s.initGuestState registers
    ({ result := result.map .ofUnit, call := .initGuestState registers }, s)
  | .snapshot registers =>
    let (result, s) := s.snapshot registers
    ({ result := result.map .ofUnit, call := .snapshot registers }, s)
  | .timestamp counter =>
    let readsCounter := s.readsCounter
    let (result, s) := s.timestamp counter
    ({ result := result.map .counter, call := .timestamp counter, readsCounter }, s)
  | .registerProbe slot probe =>
    let (result, s) := s.registerProbe slot probe
    ({ result := result.map .ofUnit, call := .registerProbe slot probe }, s)
  | .close =>
    let (told, s) := s.close
    ({ result := .ok (.summary told), call := .close }, s)

end Session

/-- What a thread does next. -/
inductive Step
  /-- Asks to run, while the probes answer their polls as given. -/
  | acquire (thread : ThreadId) (callerClass : Log.CallerClass) (answers : ExitProbe → Nat → Bool)
  | release (tag : Log.ReleaseTag)
  | exitThread
  | drop
  | call (call : Call)

/-- What a step leaves. -/
inductive Outcome
  | asked (answer : Except TokenError Grant)
  | gaveUp (result : Except TokenError Unit)
  | replied (reply : Reply)
  deriving DecidableEq

namespace Token

def step (t : Token) : Step → Outcome × Token
  | .acquire thread callerClass answers =>
    let (answer, t) := t.acquire thread callerClass answers
    (.asked answer, t)
  | .release tag =>
    let (result, t) := t.release tag
    (.gaveUp result, t)
  | .exitThread =>
    let (result, t) := t.exitThread
    (.gaveUp result, t)
  | .drop =>
    let (result, t) := t.drop
    (.gaveUp result, t)
  | .call call =>
    let (reply, session) := t.session.perform call
    (.replied reply, { t with session })

/-- The outcomes of steps taken one after the other. -/
def run (t : Token) : List Step → List Outcome × Token
  | [] => ([], t)
  | step :: rest =>
    let (outcome, t) := t.step step
    let (outcomes, t) := t.run rest
    (outcome :: outcomes, t)

theorem run_append (t : Token) (xs ys : List Step) :
    t.run (xs ++ ys) =
      ((t.run xs).1 ++ ((t.run xs).2.run ys).1, ((t.run xs).2.run ys).2) := by
  induction xs generalizing t with
  | nil => rfl
  | cons x xs ih => simp [run, ih]

end Token

end Retrace
