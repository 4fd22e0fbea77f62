import Retrace.Guest.Registers

namespace Retrace.Guest

/-- The registers of an x86 client. -/
structure X86Snapshot where
  eax : UInt32 := 0
  ecx : UInt32 := 0
  edx : UInt32 := 0
  ebx : UInt32 := 0
  esp : UInt32 := 0
  ebp : UInt32 := 0
  esi : UInt32 := 0
  edi : UInt32 := 0
  eip : UInt32 := 0
  cs : UInt16 := 0
  ds : UInt16 := 0
  es : UInt16 := 0
  fs : UInt16 := 0
  gs : UInt16 := 0
  ss : UInt16 := 0
  ldt : UInt32 := 0
  gdt : UInt32 := 0
  deriving DecidableEq

namespace X86Snapshot

/-- The length of the image. -/
def size : Nat := 56

/-- The image: general registers, segment registers, descriptor tables. -/
def toBytes (s : X86Snapshot) : Bytes :=
  [s.eax, s.ecx, s.edx, s.ebx, s.esp, s.ebp, s.esi, s.edi, s.eip].flatMap Bytes.ofUInt32 ++
    [s.cs, s.ds, s.es, s.fs, s.gs, s.ss].flatMap Bytes.ofUInt16 ++
    [s.ldt, s.gdt].flatMap Bytes.ofUInt32

def ofBytes (image : Bytes) : X86Snapshot where
  eax := Bytes.uint32 0 image
  ecx := Bytes.uint32 4 image
  edx := Bytes.uint32 8 image
  ebx := Bytes.uint32 12 image
  esp := Bytes.uint32 16 image
  ebp := Bytes.uint32 20 image
  esi := Bytes.uint32 24 image
  edi := Bytes.uint32 28 image
  eip := Bytes.uint32 32 image
  cs := Bytes.uint16 36 image
  ds := Bytes.uint16 38 image
  es := Bytes.uint16 40 image
  fs := Bytes.uint16 42 image
  gs := Bytes.uint16 44 image
  ss := Bytes.uint16 46 image
  ldt := Bytes.uint32 48 image
  gdt := Bytes.uint32 52 image

def names : List String :=
  ["eax", "ecx", "edx", "ebx", "esp", "ebp", "esi", "edi", "eip",
    "cs", "ds", "es", "fs", "gs", "ss", "ldt", "gdt"]

/-- The values in the order of the names. -/
def values (s : X86Snapshot) : List Nat :=
  [s.eax, s.ecx, s.edx, s.ebx, s.esp, s.ebp, s.esi, s.edi, s.eip].map (·.toNat) ++
    [s.cs, s.ds, s.es, s.fs, s.gs, s.ss].map (·.toNat) ++ [s.ldt, s.gdt].map (·.toNat)

def toJson (s : X86Snapshot) : Json := .record (names.zip (s.values.map Json.nat))

def ofJson? (value : Json) : Option X86Snapshot := do
  match ← value.allFields? names with
  | [eax, ecx, edx, ebx, esp, ebp, esi, edi, eip, cs, ds, es, fs, gs, ss, ldt, gdt] =>
    return {
      eax := ← eax.uint32?
      ecx := ← ecx.uint32?
      edx := ← edx.uint32?
      ebx := ← ebx.uint32?
      esp := ← esp.uint32?
      ebp := ← ebp.uint32?
      esi := ← esi.uint32?
      edi := ← edi.uint32?
      eip := ← eip.uint32?
      cs := ← cs.uint16?
      ds := ← ds.uint16?
      es := ← es.uint16?
      fs := ← fs.uint16?
      gs := ← gs.uint16?
      ss := ← ss.uint16?
      ldt := ← ldt.uint32?
      gdt := ← gdt.uint32? }
  | _ => none

end X86Snapshot

end Retrace.Guest
