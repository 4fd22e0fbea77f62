import Retrace.Json.Writer
import Retrace.Log.Cursor
import Retrace.Log.EntryJson

namespace Retrace.Inspect

inductive Format
  | text
  | json
  deriving DecidableEq

/-- The first bytes of a payload, with two points behind them if there are more. -/
def hexPreview? (payload : Bytes) (limit : Nat) : Option String :=
  if payload.isEmpty then none
  else some (Bytes.hex (payload.take limit) ++ if limit < payload.length then ".." else "")

/-- Blanks in front of a text that is shorter than a column. -/
def alignRight (width : Nat) (text : String) : String := String.ofList (text.toList.leftpad width ' ')

/-- Blanks behind a text that is shorter than a column. -/
def alignLeft (width : Nat) (text : String) : String := String.ofList (text.toList.rightpad width ' ')

/-- What is shown of an entry. -/
structure Report where
  index : Nat
  offset : Nat
  entry : Log.Entry
  payloadLength : Nat
  preview : Option String

namespace Report

def ofRecorded (limit : Nat) (r : Log.Recorded) : Report :=
  ⟨r.index, r.offset, r.entry, r.payload.length, hexPreview? r.payload limit⟩

def previewText (r : Report) : String :=
  match r.preview with
  | some preview => " [" ++ Numeral.decimal r.payloadLength ++ "B] " ++ preview
  | none => ""

def text (r : Report) : String :=
  alignRight 6 (Numeral.decimal r.index) ++ " @" ++ alignLeft 8 (Numeral.decimal r.offset) ++ " " ++
    r.entry.text ++ r.previewText

def toJson (r : Report) : Json :=
  .record <|
    [("index", .nat r.index), ("offset", .nat r.offset)] ++ r.entry.members ++
      [("payload_len", .nat r.payloadLength)] ++
      match r.preview with
      | some preview => [("payload_preview", .text preview)]
      | none => []

def render (format : Format) (r : Report) : String :=
  match format with
  | .text => r.text
  | .json => r.toJson.render

end Report

end Retrace.Inspect
