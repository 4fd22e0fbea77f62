import Retrace.Inspect.Counts
import Retrace.Inspect.Report
import Retrace.Session.Warning

namespace Retrace.Inspect

/-- How many entries of each kind, thread and release tag a log has, as far as it can be read. -/
structure Statistics where
  entries : Nat := 0
  /-- The bytes of these entries. -/
  bytes : Nat := 0
  byKind : Counts := []
  byThread : Counts := []
  /-- How often each tag ended a turn. -/
  releases : Counts := []
  /-- What stopped the count before the end of the log. -/
  error : Option Log.LogError := none

namespace Statistics

def add (s : Statistics) (e : Log.Entry) : Statistics :=
  { s with
    entries := s.entries + 1
    byKind := s.byKind.add e.kind.name
    byThread := s.byThread.add e.thread.text
    releases := match e.body with
      | .release tag => s.releases.add tag.text
      | _ => s.releases }

/-- Counts an item of a walk. -/
def addItem (s : Statistics) : Except Log.LogError Log.Recorded → Statistics
  | .ok recorded => s.add recorded.entry
  | .error e => { s with error := some e }

/-- Counts what can be read of a log, and reports why that is not all. -/
def ofSource (source : Log.Source) : Statistics × List Warning :=
  let (items, last) := (Log.Cursor.start source).walk
  let s : Statistics := items.foldl addItem {}
  ({ s with bytes := last.offset }, s.error.toList.map .malformedTail)

def countsJson (counts : Counts) : Json :=
  .record (counts.map fun (name, n) => (name, .nat n))

def toJson (s : Statistics) : Json :=
  .record <|
    [("entries", .nat s.entries), ("bytes", .nat s.bytes), ("by_kind", countsJson s.byKind),
     ("by_thread", countsJson s.byThread), ("releases", countsJson s.releases)] ++
      match s.error with
      | some e => [("error", .text e.message)]
      | none => []

/-- A title and a line for each name, or nothing at all. -/
def block (title : String) (counts : Counts) : List String :=
  if counts.isEmpty then []
  else
    (title ++ ":") :: counts.map fun (name, n) =>
      "  " ++ alignLeft 20 name ++ " " ++ alignRight 8 (Numeral.decimal n)

def lines (s : Statistics) : List String :=
  ["entries: " ++ Numeral.decimal s.entries ++ " (" ++ Numeral.decimal s.bytes ++ " bytes)"] ++
    block "by kind" s.byKind ++ block "by thread" s.byThread ++ block "releases" s.releases ++
    match s.error with
    | some e => ["stopped early: " ++ e.message]
    | none => []

def text (s : Statistics) : String := String.join (s.lines.map (· ++ "\n"))

end Statistics

end Retrace.Inspect
