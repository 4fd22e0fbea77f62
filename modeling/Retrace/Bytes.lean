namespace Retrace

/-- A log, a payload or an image. -/
abbrev Bytes := List UInt8

namespace Bytes

/-- The `width` little-endian bytes of `n`; what does not fit is dropped. -/
def ofNat : Nat → Nat → Bytes
  | 0, _ => []
  | width + 1, n => UInt8.ofNat n :: ofNat width (n / 256)

/-- The number written by little-endian bytes. -/
def toNat : Bytes → Nat
  | [] => 0
  | b :: rest => b.toNat + 256 * toNat rest

@[simp] theorem length_ofNat (width n : Nat) : (ofNat width n).length = width := by
  induction width generalizing n with
  | zero => rfl
  | succ width ih => simp [ofNat, ih]

theorem ofNat_toNat (bytes : Bytes) : ofNat bytes.length (toNat bytes) = bytes := by
  induction bytes with
  | nil => rfl
  | cons b rest ih =>
    have hb : b.toNat < 256 := b.toNat_lt
    have hdiv : (b.toNat + 256 * toNat rest) / 256 = toNat rest := by omega
    have hbyte : UInt8.ofNat (b.toNat + 256 * toNat rest) = b := by
      apply UInt8.toNat_inj.mp
      simp only [UInt8.toNat_ofNat', Nat.reducePow]
      omega
    rw [List.length_cons, ofNat, toNat, hdiv, ih, hbyte]

/-- The `width` bytes from `offset` on, fewer where the run ends. -/
def slice (offset width : Nat) (bytes : Bytes) : Bytes :=
  (bytes.drop offset).take width

def ofUInt16 (n : UInt16) : Bytes := ofNat 2 n.toNat

def ofUInt32 (n : UInt32) : Bytes := ofNat 4 n.toNat

def ofUInt64 (n : UInt64) : Bytes := ofNat 8 n.toNat

/-- The 16-bit word at `offset`. -/
def uint16 (offset : Nat) (bytes : Bytes) : UInt16 := UInt16.ofNat (toNat (slice offset 2 bytes))

/-- The 32-bit word at `offset`. -/
def uint32 (offset : Nat) (bytes : Bytes) : UInt32 := UInt32.ofNat (toNat (slice offset 4 bytes))

/-- The 64-bit word at `offset`. -/
def uint64 (offset : Nat) (bytes : Bytes) : UInt64 := UInt64.ofNat (toNat (slice offset 8 bytes))

/-- A buffer after `front` was written over its first bytes. -/
def overwrite (front buffer : Bytes) : Bytes :=
  front ++ buffer.drop front.length

def zeros (n : Nat) : Bytes := List.replicate n 0

/-- The lower-case hexadecimal digit of a number below sixteen. -/
def hexDigit (d : Nat) : Char :=
  if d < 10 then Char.ofNat (48 + d) else Char.ofNat (87 + d)

/-- Two lower-case digits a byte. -/
def hex (bytes : Bytes) : String :=
  String.ofList (bytes.flatMap fun b => [hexDigit (b.toNat / 16), hexDigit (b.toNat % 16)])

end Bytes

end Retrace
