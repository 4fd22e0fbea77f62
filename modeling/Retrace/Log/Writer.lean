import Retrace.Log.Record
import Retrace.Log.Sink

namespace Retrace.Log

/-- Appends entries to a sink and counts what it appended. -/
structure Writer where
  sink : Sink
  appended : Nat := 0
  bytesWritten : Nat := 0

namespace Writer

/-- Writes a record and then its payload, if the payload is as long as the entry declares. -/
def append (w : Writer) (entry : Entry) (payload : Bytes) : Except LogError Unit × Writer :=
  if entry.payloadLength ≠ payload.length then
    (.error (.payloadLength entry.kind entry.payloadLength payload.length), w)
  else
    match w.sink.writeAll entry.encode with
    | (.error reason, sink) => (.error (.io reason), { w with sink })
    | (.ok (), sink) =>
      match sink.writeAll payload with
      | (.error reason, sink) => (.error (.io reason), { w with sink })
      | (.ok (), sink) =>
        (.ok (), {
          sink
          appended := w.appended + 1
          bytesWritten := w.bytesWritten + (recordSize + payload.length) })

/-- Makes everything appended durable: a flush, then a sync. -/
def barrier (w : Writer) : Except LogError Unit × Writer :=
  match w.sink.flush with
  | .error reason => (.error (.io reason), w)
  | .ok () =>
    let (result, sink) := w.sink.sync
    (result.mapError .io, { w with sink })

end Writer

end Retrace.Log
