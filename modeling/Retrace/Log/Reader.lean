import Retrace.Log.Cursor
import Retrace.Log.Template

namespace Retrace.Log

/-- Reads a log entry by entry, each against the template of a replaying run. -/
structure Reader where
  source : Source
  /-- How many entries were read. -/
  resolved : Nat := 0

namespace Reader

/-- The next entry, whatever it is. -/
def nextEntry (r : Reader) : Except Desync Entry × Reader :=
  match r.source.readRecord with
  | (.error e, source) => (.error (.log e), { r with source })
  | (.ok none, source) => (.error .endOfLog, { r with source })
  | (.ok (some record), source) =>
    match Entry.decode record with
    | .error e => (.error (.log e), { r with source })
    | .ok entry => (.ok entry, { source, resolved := r.resolved + 1 })

/-- The next entry, settled with a template. -/
def settleNext (r : Reader) (template : Entry) : Except Desync Entry × Reader :=
  match r.nextEntry with
  | (.error e, r) => (.error e, r)
  | (.ok recorded, r) => (template.settle recorded, r)

/-- Resolves an entry that no payload follows. -/
def resolve (r : Reader) (template : Entry) : Except Desync Entry × Reader :=
  if template.kind.hasPayload then (.error (.wrongResolver template.kind .plain), r)
  else r.settleNext template

/-- Resolves an entry whose payload is as long as a buffer, which it fills. -/
def resolveData (r : Reader) (template : Entry) (buffer : Bytes) :
    Except Desync Entry × Bytes × Reader :=
  if template.kind ≠ .data ∧ template.kind ≠ .snapshot then
    (.error (.wrongResolver template.kind .data), buffer, r)
  else if buffer.length ≠ template.payloadLength then
    (.error (.bufferLength template.kind template.payloadLength buffer.length), buffer, r)
  else
    match r.settleNext template with
    | (.error e, r) => (.error e, buffer, r)
    | (.ok entry, r) =>
      match r.source.readPayload buffer with
      | (.error e, buffer, source) => (.error (.log e), buffer, { r with source })
      | (.ok (), buffer, source) => (.ok entry, buffer, { r with source })

/-- Resolves a command line, whose length only the log knows. -/
def resolveCmdline (r : Reader) (template : Entry) : Except Desync (Entry × Bytes) × Reader :=
  if template.kind ≠ .clientCmdline then (.error (.wrongResolver template.kind .cmdline), r)
  else
    match r.settleNext template with
    | (.error e, r) => (.error e, r)
    | (.ok entry, r) =>
      let length := entry.payloadLength
      if length = 0 ∨ cmdlineLimit ≤ length then (.error (.cmdlineLength length), r)
      else
        match r.source.readPayload (Bytes.zeros length) with
        | (.error e, _, source) => (.error (.log e), { r with source })
        | (.ok (), payload, source) => (.ok (entry, payload), { r with source })

end Reader

end Retrace.Log
