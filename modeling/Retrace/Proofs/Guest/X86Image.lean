import Retrace.Guest.X86
import Retrace.Proofs.Log.Canonical

namespace Retrace

namespace Bytes

@[simp] theorem length_ofUInt16 (n : UInt16) : (ofUInt16 n).length = 2 := length_ofNat _ _

@[simp] theorem toNat_ofUInt16 (n : UInt16) : toNat (ofUInt16 n) = n.toNat := by
  have hlt : n.toNat < 256 ^ 2 := n.toNat_lt
  rw [ofUInt16, toNat_ofNat, Nat.mod_eq_of_lt hlt]

@[simp] theorem toNat_ofUInt32 (n : UInt32) : toNat (ofUInt32 n) = n.toNat := by
  have hlt : n.toNat < 256 ^ 4 := n.toNat_lt
  rw [ofUInt32, toNat_ofNat, Nat.mod_eq_of_lt hlt]

@[simp] theorem uint16_append (n : UInt16) (rest : Bytes) : uint16 0 (ofUInt16 n ++ rest) = n := by
  rw [uint16, slice_append (length_ofUInt16 n), toNat_ofUInt16, UInt16.ofNat_toNat]

theorem uint16_append_of_le {front : Bytes} {offset : Nat} (h : front.length ≤ offset)
    (rest : Bytes) : uint16 offset (front ++ rest) = uint16 (offset - front.length) rest := by
  rw [uint16, uint16, slice_append_of_le h]

theorem ofUInt16_uint16 {offset : Nat} {bytes : Bytes} (h : offset + 2 ≤ bytes.length) :
    ofUInt16 (uint16 offset bytes) = slice offset 2 bytes := by
  have hlen := length_slice_of_le h
  have hlt := toNat_lt (slice offset 2 bytes)
  have hback := ofNat_toNat (slice offset 2 bytes)
  rw [hlen] at hlt hback
  rw [ofUInt16, uint16, UInt16.toNat_ofNat_of_lt' hlt, hback]

/-- Words of one width that are read one behind the other and written again make up the bytes that
they were read from. -/
theorem flatMap_words {α : Type} {read : Nat → α} {encode : α → Bytes} {width : Nat} {bytes : Bytes}
    (hword : ∀ offset, offset + width ≤ bytes.length →
      encode (read offset) = slice offset width bytes)
    (offset n : Nat) (hroom : offset + width * n ≤ bytes.length) :
    ((List.range n).map fun i => read (offset + width * i)).flatMap encode =
      slice offset (width * n) bytes := by
  induction n with
  | zero => rfl
  | succ n ih =>
    rw [Nat.mul_succ, ← Nat.add_assoc] at hroom
    have hlast := hword (offset + width * n) hroom
    rw [List.range_succ, List.map_append, List.flatMap_append, ih (by omega), Nat.mul_succ,
      ← slice_append_slice, ← hlast]
    simp

end Bytes

namespace Guest

namespace RegisterLayout

theorem diff_append (front rest : List RegisterField) (live recorded : Bytes) :
    diff ⟨front ++ rest⟩ live recorded = diff ⟨front⟩ live recorded ++ diff ⟨rest⟩ live recorded := by
  simp only [diff, List.filter_append, List.map_append]

def mismatch? (name : String) (live recorded : UInt64) : Option FieldMismatch :=
  if live = recorded then none else some ⟨name, live, recorded⟩

theorem diff_cons {field : RegisterField} {live recorded : Bytes}
    (hbytes : field.valueIn live = field.valueIn recorded →
      field.bytesIn live = field.bytesIn recorded) (rest : List RegisterField) :
    diff ⟨field :: rest⟩ live recorded =
      (mismatch? field.name (field.valueIn live) (field.valueIn recorded)).toList ++
        diff ⟨rest⟩ live recorded := by
  have hiff : field.bytesIn live = field.bytesIn recorded ↔
      field.valueIn live = field.valueIn recorded :=
    ⟨fun h => by rw [RegisterField.valueIn, RegisterField.valueIn, h], hbytes⟩
  by_cases h : field.valueIn live = field.valueIn recorded
  · simp [diff, mismatch?, h, hiff.mpr h]
  · simp [diff, mismatch?, h, hiff.not.mpr h]

/-- Where words of one width stand one behind the other in two images, the fields of a row tell of the
words that differ. -/
theorem diff_row {α : Type} {encode : α → Bytes} {width : Nat}
    (hlength : ∀ x, (encode x).length = width) (hwidth : width ≤ 8) (number : α → UInt64)
    (hnumber : ∀ x, Bytes.toNat (encode x) = (number x).toNat) (hinj : Function.Injective number)
    (words words' : List (String × α)) (hnames : words.map (·.1) = words'.map (·.1))
    (front front' : Bytes) (hfront : front.length = front'.length) (rest rest' : Bytes) :
    diff ⟨row front.length width (words.map (·.1))⟩
        (front ++ (words.map (·.2)).flatMap encode ++ rest)
        (front' ++ (words'.map (·.2)).flatMap encode ++ rest') =
      (words.zip words').filterMap fun (word, word') =>
        mismatch? word.1 (number word.2) (number word'.2) := by
  induction words generalizing words' front front' with
  | nil => rfl
  | cons word words ih =>
    cases words' with
    | nil => cases hnames
    | cons word' words' =>
      obtain ⟨name, x⟩ := word
      obtain ⟨name', y⟩ := word'
      obtain ⟨_, hnames⟩ := List.cons.inj hnames
      have hbytes (front : Bytes) (x : α) (rest : Bytes) :
          RegisterField.bytesIn ⟨name, front.length, width⟩ (front ++ (encode x ++ rest)) =
            encode x := by
        rw [RegisterField.bytesIn, Bytes.slice_append_of_le (Nat.le_refl _), Nat.sub_self,
          Bytes.slice_append (hlength x)]
      have hvalue (front : Bytes) (x : α) (rest : Bytes) :
          RegisterField.valueIn ⟨name, front.length, width⟩ (front ++ (encode x ++ rest)) =
            number x := by
        rw [RegisterField.valueIn, hbytes, List.take_of_length_le ((hlength x).trans_le hwidth),
          hnumber, UInt64.ofNat_toNat]
      have hrest := ih words' hnames (front ++ encode x) (front' ++ encode y)
        (by simp only [List.length_append, hfront, hlength])
      rw [List.length_append, hlength] at hrest
      simp only [List.append_assoc, List.flatMap_cons, List.map_cons, row] at hrest ⊢
      rw [diff_cons, hrest, hvalue, hfront, hvalue, List.zip_cons_cons, List.filterMap_cons]
      · dsimp only
        cases mismatch? name (number x) (number y) <;> rfl
      · intro h
        rw [hvalue, hfront, hvalue] at h
        rw [hbytes, hfront, hbytes, hinj h]

end RegisterLayout

namespace X86Snapshot

def general (s : X86Snapshot) : List (String × UInt32) :=
  [("EAX", s.eax), ("ECX", s.ecx), ("EDX", s.edx), ("EBX", s.ebx), ("ESP", s.esp), ("EBP", s.ebp),
    ("ESI", s.esi), ("EDI", s.edi), ("EIP", s.eip)]

def segments (s : X86Snapshot) : List (String × UInt16) :=
  [("CS", s.cs), ("DS", s.ds), ("ES", s.es), ("FS", s.fs), ("GS", s.gs), ("SS", s.ss)]

def registers (s : X86Snapshot) : List (String × UInt64) :=
  s.general.map (fun (name, word) => (name, word.toUInt64)) ++
    s.segments.map fun (name, word) => (name, word.toUInt64)

theorem length_toBytes (s : X86Snapshot) : s.toBytes.length = size := by
  simp [toBytes, size]

theorem ofBytes_toBytes (s : X86Snapshot) : ofBytes s.toBytes = s := by
  have hlast : Bytes.uint32 0 (Bytes.ofUInt32 s.gdt) = s.gdt := by
    simpa using Bytes.uint32_append s.gdt []
  simp [hlast, ofBytes, toBytes, Bytes.uint32_append_of_le, Bytes.uint16_append_of_le]

theorem toBytes_ofBytes {image : Bytes} (h : image.length = size) :
    (ofBytes image).toBytes = image := by
  have hsize : image.length = 56 := h
  have hdwords (offset : Nat) (hroom : offset + 4 ≤ image.length) :
      Bytes.ofUInt32 (Bytes.uint32 offset image) = Bytes.slice offset 4 image :=
    Bytes.ofUInt32_uint32 hroom
  have hwords (offset : Nat) (hroom : offset + 2 ≤ image.length) :
      Bytes.ofUInt16 (Bytes.uint16 offset image) = Bytes.slice offset 2 image :=
    Bytes.ofUInt16_uint16 hroom
  have hgeneral := Bytes.flatMap_words hdwords 0 9 (by omega)
  have hsegments := Bytes.flatMap_words hwords 36 6 (by omega)
  have htables := Bytes.flatMap_words hdwords 48 2 (by omega)
  calc (ofBytes image).toBytes
      = Bytes.slice 0 36 image ++ Bytes.slice 36 12 image ++ Bytes.slice 48 8 image :=
        congrArg₂ (· ++ ·) (congrArg₂ (· ++ ·) hgeneral hsegments) htables
    _ = Bytes.slice 0 56 image := by
        rw [Bytes.slice_append_slice 0 36 12, Bytes.slice_append_slice 0 48 8]
    _ = image := by
        rw [Bytes.slice, List.drop_zero, List.take_of_length_le (Nat.le_of_eq hsize)]

theorem toBytes_eq (s : X86Snapshot) :
    s.toBytes = (s.general.map (·.2)).flatMap Bytes.ofUInt32 ++
      (s.segments.map (·.2)).flatMap Bytes.ofUInt16 ++ [s.ldt, s.gdt].flatMap Bytes.ofUInt32 := rfl

theorem registers_zip (a b : X86Snapshot) :
    a.registers.zip b.registers =
      (a.general.zip b.general).map
          (fun (x, y) => ((x.1, x.2.toUInt64), (y.1, y.2.toUInt64))) ++
        (a.segments.zip b.segments).map
          fun (x, y) => ((x.1, x.2.toUInt64), (y.1, y.2.toUInt64)) := rfl

theorem diff_toBytes (a b : X86Snapshot) :
    RegisterLayout.x86.diff a.toBytes b.toBytes =
      (a.registers.zip b.registers).filterMap fun (x, y) =>
        RegisterLayout.mismatch? x.1 x.2 y.2 := by
  have hlayout : RegisterLayout.x86 =
      ⟨RegisterLayout.row 0 4 (a.general.map (·.1)) ++
        RegisterLayout.row 36 2 (a.segments.map (·.1))⟩ := rfl
  have hgeneral := RegisterLayout.diff_row Bytes.length_ofUInt32 (by decide) UInt32.toUInt64
    (fun x => by simp) (fun x y h => UInt32.toUInt64_inj.mp h) a.general b.general rfl [] [] rfl
  have hsegments := RegisterLayout.diff_row Bytes.length_ofUInt16 (by decide) UInt16.toUInt64
    (fun x => by simp) (fun x y h => UInt16.toUInt64_inj.mp h) a.segments b.segments rfl
    ((a.general.map (·.2)).flatMap Bytes.ofUInt32) ((b.general.map (·.2)).flatMap Bytes.ofUInt32)
    (by simp [general])
  have hstart : ((a.general.map (·.2)).flatMap Bytes.ofUInt32).length = 36 := by simp [general]
  rw [hstart] at hsegments
  simp only [List.nil_append, List.length_nil] at hgeneral
  rw [hlayout, RegisterLayout.diff_append, registers_zip, List.filterMap_append, List.filterMap_map,
    List.filterMap_map, toBytes_eq, toBytes_eq, hsegments, List.append_assoc, List.append_assoc,
    hgeneral]
  rfl

/-- The layout tells of two images exactly which registers differ, in their order and with their values,
whatever the descriptor tables are; and an image and its registers determine each other. -/
theorem image_fits_layout :
    (∀ a b : X86Snapshot,
      RegisterLayout.x86.diff a.toBytes b.toBytes =
        (a.registers.zip b.registers).filterMap (fun ((name, runtime), (_, recorded)) =>
          if runtime = recorded then none else some ⟨name, runtime, recorded⟩) ∧
      ∀ ldt gdt ldt' gdt' : UInt32,
        RegisterLayout.x86.diff { a with ldt, gdt }.toBytes { b with ldt := ldt', gdt := gdt' }.toBytes =
          RegisterLayout.x86.diff a.toBytes b.toBytes) ∧
    (∀ s : X86Snapshot, s.toBytes.length = size ∧ ofBytes s.toBytes = s) ∧
    ∀ image : Bytes, image.length = size → (ofBytes image).toBytes = image := by
  refine ⟨fun a b => ⟨diff_toBytes a b, ?_⟩, fun s => ⟨s.length_toBytes, s.ofBytes_toBytes⟩,
    fun image => toBytes_ofBytes⟩
  intro ldt gdt ldt' gdt'
  rw [diff_toBytes, diff_toBytes]
  rfl

/-- The bytes from 1 to 56, of which no two registers have the same ones. -/
def countedImage : Bytes := (List.range 56).map fun i => UInt8.ofNat (i + 1)

theorem image_fits_layout_counted :
    countedImage.length = size ∧ (ofBytes countedImage).toBytes = countedImage ∧
      (ofBytes countedImage).eip = 0x24232221 ∧ (ofBytes countedImage).cs = 0x2625 ∧
      RegisterLayout.x86.diff { ofBytes countedImage with ldt := 0 }.toBytes
          { ofBytes countedImage with ecx := 0x08070606, ss := 0, gdt := 9 }.toBytes =
        [⟨"ECX", 0x08070605, 0x08070606⟩, ⟨"SS", 0x302f, 0⟩] := by
  obtain ⟨hdiff, _, himage⟩ := image_fits_layout
  have hsize : countedImage.length = size := by decide +kernel
  refine ⟨hsize, himage countedImage hsize, by decide +kernel, by decide +kernel, ?_⟩
  rw [(hdiff _ _).1]
  decide +kernel

end X86Snapshot

end Guest

end Retrace
