import Retrace.Inspect.Report
import Retrace.Log.Sink

namespace Retrace.Inspect

inductive DumpError
  | log (reason : Log.LogError)
  | output (reason : IoError)
  /-- The output failed inside a JSON object. -/
  | json (reason : IoError)
  deriving DecidableEq

def DumpError.message : DumpError → String
  | .log reason => "log error: " ++ reason.message
  | .output reason => "output error: " ++ reason.message
  | .json reason => "JSON error: " ++ reason.message

def newline : Bytes := [10]

/-- Writes a report and ends its line. -/
def writeLine (format : Format) (sink : Log.Sink) (r : Report) : Except DumpError Unit × Log.Sink :=
  match sink.writeAll (Utf8.encodeText (r.render format)) with
  | (.error reason, sink) =>
    (.error (match format with
      | .text => .output reason
      | .json => .json reason), sink)
  | (.ok (), sink) =>
    match sink.writeAll newline with
    | (.error reason, sink) => (.error (.output reason), sink)
    | (.ok (), sink) => (.ok (), sink)

/-- Writes the entries of a walk, and counts them if all goes well. -/
def dumpItems (format : Format) (limit : Nat) (sink : Log.Sink) :
    List (Except Log.LogError Log.Recorded) → Except DumpError Nat × Log.Sink
  | [] => ((sink.flush.mapError .output).map fun _ => 0, sink)
  | .error e :: _ => (.error (.log e), sink)
  | .ok recorded :: rest =>
    match writeLine format sink (.ofRecorded limit recorded) with
    | (.error e, sink) => (.error e, sink)
    | (.ok (), sink) =>
      let (count, sink) := dumpItems format limit sink rest
      (count.map (· + 1), sink)

def dump (format : Format) (limit : Nat) (source : Log.Source) (sink : Log.Sink) :
    Except DumpError Nat × Log.Sink :=
  dumpItems format limit sink (Log.Cursor.items source)

end Retrace.Inspect
