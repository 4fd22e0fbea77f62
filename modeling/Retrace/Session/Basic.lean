import Retrace.Config
import Retrace.Log.Reader
import Retrace.Log.Writer
import Retrace.Session.Identity
import Retrace.Session.Schedule
import Retrace.Session.Summary
import Retrace.Session.Verifier

namespace Retrace

/-- What a session has to do with a log. -/
inductive Channel
  | inactive
  | record (writer : Log.Writer)
  | replay (reader : Log.Reader)

namespace Channel

def mode : Channel → Mode
  | inactive => .inactive
  | record _ => .record
  | replay _ => .replay

/-- Sends an entry through the log: recording appends it, replaying resolves it as a template. -/
def process (channel : Channel) (template : Log.Entry) : Except SessionError Log.Entry × Channel :=
  match channel with
  | inactive => (.ok template, inactive)
  | record writer =>
    match writer.append template [] with
    | (.ok (), writer) => (.ok template, record writer)
    | (.error e, writer) => (.error (.log e), record writer)
  | replay reader =>
    match reader.resolve template with
    | (.ok resolved, reader) => (.ok resolved, replay reader)
    | (.error e, reader) => (.error (.desync e), replay reader)

/-- Sends an entry and the bytes after it: recording writes the buffer, replaying fills it. -/
def processData (channel : Channel) (template : Log.Entry) (buffer : Bytes) :
    Except SessionError Log.Entry × Bytes × Channel :=
  match channel with
  | inactive => (.ok template, buffer, inactive)
  | record writer =>
    match writer.append template buffer with
    | (.ok (), writer) => (.ok template, buffer, record writer)
    | (.error e, writer) => (.error (.log e), buffer, record writer)
  | replay reader =>
    match reader.resolveData template buffer with
    | (.ok resolved, buffer, reader) => (.ok resolved, buffer, replay reader)
    | (.error e, buffer, reader) => (.error (.desync e), buffer, replay reader)

/-- How many entries were written or read. -/
def entries : Channel → Nat
  | inactive => 0
  | record writer => writer.appended
  | replay reader => reader.resolved

end Channel

/-- A log, and what is known of the threads of a run while the log is written or read back. -/
structure Session where
  config : Config
  channel : Channel
  /-- The thread that runs. -/
  running : ThreadId := .nobody
  schedule : Schedule := {}
  identities : IdentityTable := .empty
  verifier : Verifier := ⟨.x86, config.reportLimit, 0⟩
  /-- How often a dispatch counter was not the recorded one. -/
  dispatchMismatches : Nat := 0
  /-- What was told when the session was closed. -/
  summary : Option Summary := none
  /-- Everything reported so far. -/
  warnings : List Warning := []

namespace Session

def recording (sink : Log.Sink) (config : Config) : Session where
  config := { config with mode := .record }
  channel := .record { sink }

def replaying (source : Log.Source) (config : Config) : Session where
  config := { config with mode := .replay }
  channel := .replay { source }

/-- A session without a log. -/
def inactive (config : Config) : Session where
  config := { config with mode := .inactive }
  channel := .inactive

/-- Compares register images field by field of another layout. -/
def withLayout (s : Session) (layout : Guest.RegisterLayout) : Session :=
  { s with verifier := { layout, reportLimit := s.config.reportLimit } }

def mode (s : Session) : Mode := s.channel.mode

def isClosed (s : Session) : Bool := s.summary.isSome

def divergence (s : Session) : Divergence := ⟨s.verifier.diverged, s.dispatchMismatches⟩

def report (s : Session) (warnings : List Warning) : Session :=
  { s with warnings := s.warnings ++ warnings }

/-- Sends an entry through the log of an open session. -/
def process (s : Session) (template : Log.Entry) : Except SessionError Log.Entry × Session :=
  if s.isClosed then (.error .closed, s)
  else
    let (result, channel) := s.channel.process template
    (result, { s with channel })

/-- Sends an entry and the bytes after it through the log of an open session. -/
def processData (s : Session) (template : Log.Entry) (buffer : Bytes) :
    Except SessionError Log.Entry × Bytes × Session :=
  if s.isClosed then (.error .closed, buffer, s)
  else
    let (result, buffer, channel) := s.channel.processData template buffer
    (result, buffer, { s with channel })

/-- The last sync of a recorded log. It may fail, which is reported. -/
def finish (s : Session) : Session :=
  match s.channel with
  | .record writer =>
    match writer.barrier with
    | (.ok (), writer) => { s with channel := .record writer }
    | (.error e, writer) => { s with channel := .record writer }.report [.finalSync e]
  | _ => s

/-- What the session would tell if it were closed now. -/
def tally (s : Session) : Summary := ⟨s.mode, s.channel.entries, s.divergence⟩

/-- Closes the session for good. Closing it again tells the same. -/
def close (s : Session) : Summary × Session :=
  match s.summary with
  | some summary => (summary, s)
  | none =>
    let s := s.finish
    (s.tally, { s with summary := some s.tally })

end Session

end Retrace
