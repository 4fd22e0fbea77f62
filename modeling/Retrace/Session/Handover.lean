import Retrace.Session.Basic

namespace Retrace.Session

/-- Answers a thread that asks to run, and logs that it runs when recording. -/
def ask (s : Session) (thread : ThreadId) (callerClass : Log.CallerClass) :
    Except SessionError Admission × Session :=
  match s.mode, s.schedule.started with
  | .inactive, _ => (.ok .admitted, s)
  | .record, true =>
    match s.process (.acquire thread callerClass) with
    | (.ok _, s) => (.ok .admitted, { s with schedule := s.schedule.schedule thread callerClass })
    | (.error e, s) => (.error e, s)
  | _, _ => (s.schedule.answer thread callerClass, s)

/-- Lets a thread run if it may. -/
def enter (s : Session) (thread : ThreadId) (callerClass : Log.CallerClass) :
    Except SessionError Admission × Session :=
  match s.ask thread callerClass with
  | (.ok .first, s) => (.ok .first, { s with running := thread, schedule := s.schedule.start })
  | (.ok .admitted, s) => (.ok .admitted, { s with running := thread })
  | answer => answer

/-- How a thread was waited for that stopped for good. -/
structure ExitWait where
  thread : ThreadId
  probe : ExitProbe
  wait : ExitProbe.Wait
  deriving DecidableEq

/-- Polls the probe of the thread that stopped for good, and forgets both. `answers` tells what each
probe answers to its polls. -/
def awaitExit (s : Session) (answers : ExitProbe → Nat → Bool) : Option ExitWait × Session :=
  match s.schedule.takeExiting with
  | (none, schedule) => (none, { s with schedule })
  | (some thread, schedule) =>
    let s := { s with schedule }
    if thread.isMain then (none, s)
    else
      match s.identities.takeProbe thread with
      | (none, _) => (none, s)
      | (some probe, identities) =>
        let s := { s with identities }
        let wait := ExitProbe.wait (answers probe) s.config.exitWaitRetries.toNat
        (some ⟨thread, probe, wait⟩, if wait.observed then s else s.report [.stillExiting thread])

/-- The end of a turn: recording makes the log durable, replaying reads ahead who is next. -/
def handOver (s : Session) : Except SessionError Unit × Session :=
  match s.channel with
  | .inactive => (.ok (), s)
  | .record writer =>
    match writer.barrier with
    | (.ok (), writer) => (.ok (), { s with channel := .record writer })
    | (.error e, writer) => (.error (.log e), { s with channel := .record writer })
  | .replay reader =>
    match reader.resolve (.acquire .nobody .unknown) with
    | (.ok ⟨_, .acquire next callerClass⟩, reader) =>
      (.ok (), {
        s with
        channel := .replay reader
        schedule := s.schedule.schedule next callerClass })
    | (.ok _, reader) => (.ok (), { s with channel := .replay reader })
    | (.error .endOfLog, reader) =>
      (.ok (), { s with channel := .replay reader, schedule := s.schedule.exhaust })
    | (.error e, reader) => (.error (.desync e), { s with channel := .replay reader })

/-- A thread stops running, for a reason that a replay must repeat. -/
def release (s : Session) (thread : ThreadId) (tag : Log.ReleaseTag) :
    Except SessionError Unit × Session :=
  let s := { s with running := .nobody }
  if !s.mode.isActive then (.ok (), s)
  else
    match s.process (.release thread tag) with
    | (.error e, s) => (.error e, s)
    | (.ok _, s) => s.handOver

/-- A thread stops for good: its numbers are free again, and whoever runs next waits for it. -/
def exitThread (s : Session) (thread : ThreadId) : Except SessionError Unit × Session :=
  if !thread.isValid then (.error (.invalidSlot thread), s)
  else
    match s.release thread .exitThread with
    | (.error e, s) => (.error e, s)
    | (.ok (), s) =>
      if !s.mode.isActive then (.ok (), s)
      else
        (.ok (), {
          s with
          schedule := s.schedule.markExiting thread
          identities := s.identities.clear thread })

end Retrace.Session
