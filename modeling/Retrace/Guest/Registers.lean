import Retrace.Bytes
import Retrace.Json.Shape

namespace Retrace.Guest

structure RegisterField where
  name : String
  offset : Nat
  /-- The width in bytes, of which the first eight make up the value. -/
  width : Nat
  deriving DecidableEq

namespace RegisterField

/-- The first offset after the field. -/
def stop (field : RegisterField) : Nat := field.offset + field.width

def bytesIn (field : RegisterField) (image : Bytes) : Bytes :=
  Bytes.slice field.offset field.width image

def valueIn (field : RegisterField) (image : Bytes) : UInt64 :=
  UInt64.ofNat (Bytes.toNat ((field.bytesIn image).take 8))

def toJson (field : RegisterField) : Json :=
  .record [("name", .text field.name), ("offset", .nat field.offset), ("width", .nat field.width)]

def ofJson? (value : Json) : Option RegisterField := do
  match ← value.allFields? ["name", "offset", "width"] with
  | [name, offset, width] => return ⟨← name.text?, ← offset.size?, ← width.size?⟩
  | _ => none

end RegisterField

/-- A register whose live value differs from the recorded one. -/
structure FieldMismatch where
  name : String
  runtime : UInt64
  recorded : UInt64
  deriving DecidableEq

namespace FieldMismatch

def toJson (m : FieldMismatch) : Json :=
  .record
    [("name", .text m.name), ("runtime", .nat m.runtime.toNat), ("recorded", .nat m.recorded.toNat)]

def ofJson? (value : Json) : Option FieldMismatch := do
  match ← value.allFields? ["name", "runtime", "recorded"] with
  | [name, runtime, recorded] => return ⟨← name.text?, ← runtime.uint64?, ← recorded.uint64?⟩
  | _ => none

end FieldMismatch

structure RegisterLayout where
  fields : List RegisterField
  deriving DecidableEq

namespace RegisterLayout

/-- Fields of one width, one behind the other. -/
def row (offset width : Nat) : List String → List RegisterField
  | [] => []
  | name :: rest => ⟨name, offset, width⟩ :: row (offset + width) width rest

/-- The general and the segment registers. The descriptor tables behind them are left out, for they
stand at other places in each run. -/
def x86 : RegisterLayout :=
  ⟨row 0 4 ["EAX", "ECX", "EDX", "EBX", "ESP", "EBP", "ESI", "EDI", "EIP"] ++
    row 36 2 ["CS", "DS", "ES", "FS", "GS", "SS"]⟩

/-- The shortest image that holds every field. -/
def minLength (layout : RegisterLayout) : Nat :=
  layout.fields.foldr (fun field n => max field.stop n) 0

/-- The fields whose bytes differ, in the order of the layout. -/
def diff (layout : RegisterLayout) (live recorded : Bytes) : List FieldMismatch :=
  (layout.fields.filter fun field => field.bytesIn live != field.bytesIn recorded).map fun field =>
    ⟨field.name, field.valueIn live, field.valueIn recorded⟩

def toJson (layout : RegisterLayout) : Json :=
  .record [("fields", .array (layout.fields.map RegisterField.toJson))]

def ofJson? (value : Json) : Option RegisterLayout := do
  match ← value.allFields? ["fields"] with
  | [fields] => return ⟨← (← fields.items?).mapM RegisterField.ofJson?⟩
  | _ => none

end RegisterLayout

end Retrace.Guest
