import Retrace.Session.Handover

namespace Retrace

/-- The right to run. Whoever holds it has the session to itself. -/
structure Token where
  session : Session
  holder : Option ThreadId := none

/-- The answer to a thread that may run, or may run later. -/
inductive Grant
  | notYet
  /-- It runs, after another thread was waited for or not. -/
  | granted (wait : Option Session.ExitWait)
  deriving DecidableEq

inductive TokenError
  | notHeld
  | alreadyHeld
  | session (reason : SessionError)
  deriving DecidableEq

namespace Token

/-- Asks for the token once. -/
def acquire (t : Token) (thread : ThreadId) (callerClass : Log.CallerClass)
    (answers : ExitProbe → Nat → Bool) : Except TokenError Grant × Token :=
  if t.holder.isSome then (.error .alreadyHeld, t)
  else
    match t.session.enter thread callerClass with
    | (.error e, session) => (.error (.session e), { t with session })
    | (.ok .notYet, session) => (.ok .notYet, { t with session })
    | (.ok .first, session) => (.ok (.granted none), { session, holder := some thread })
    | (.ok .admitted, session) =>
      let (wait, session) := session.awaitExit answers
      (.ok (.granted wait), { session, holder := some thread })

/-- Ends the turn of the holder, who gives the token up even if that fails. -/
def giveUp (t : Token) (finish : Session → ThreadId → Except SessionError Unit × Session) :
    Except TokenError Unit × Token :=
  match t.holder with
  | none => (.error .notHeld, t)
  | some thread =>
    let (result, session) := finish t.session thread
    (result.mapError .session, { session })

def release (t : Token) (tag : Log.ReleaseTag) : Except TokenError Unit × Token :=
  t.giveUp fun session thread => session.release thread tag

def exitThread (t : Token) : Except TokenError Unit × Token := t.giveUp Session.exitThread

/-- Gives the token up without a word in the log. -/
def drop (t : Token) : Except TokenError Unit × Token := t.giveUp fun session _ => (.ok (), session)

end Token

end Retrace
