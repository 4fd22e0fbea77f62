import Retrace.Bytes

namespace Retrace.Utf8

def encode (cs : List Char) : Bytes := cs.flatMap String.utf8EncodeChar

def encodeText (text : String) : Bytes := encode text.toList

def replacement : Char := '\uFFFD'

/-- What a first byte announces: how many bytes follow, its own bits, and the range of the second byte. -/
structure Lead where
  more : Nat
  bits : Nat
  low : Nat
  high : Nat

/-- The second byte is narrowed where a longer form, a surrogate or a number past U+10FFFF would begin. -/
def lead? (b : Nat) : Option Lead :=
  if b < 0x80 then some ⟨0, b, 0x80, 0xBF⟩
  else if b < 0xC2 then none
  else if b < 0xE0 then some ⟨1, b - 0xC0, 0x80, 0xBF⟩
  else if b < 0xF0 then
    some ⟨2, b - 0xE0, if b = 0xE0 then 0xA0 else 0x80, if b = 0xED then 0x9F else 0xBF⟩
  else if b < 0xF5 then
    some ⟨3, b - 0xF0, if b = 0xF0 then 0x90 else 0x80, if b = 0xF4 then 0x8F else 0xBF⟩
  else none

/-- Takes the bytes that follow a first byte; stops at the first that cannot. -/
def follow : (more bits low high : Nat) → Bytes → Option Nat × Bytes
  | 0, bits, _, _, rest => (some bits, rest)
  | _ + 1, _, _, _, [] => (none, [])
  | more + 1, bits, low, high, b :: rest =>
    if low ≤ b.toNat ∧ b.toNat ≤ high then
      follow more (64 * bits + (b.toNat - 0x80)) 0x80 0xBF rest
    else (none, b :: rest)

theorem length_follow_le (more bits low high : Nat) (bytes : Bytes) :
    (follow more bits low high bytes).2.length ≤ bytes.length := by
  induction more generalizing bits low high bytes with
  | zero => simp [follow]
  | succ more ih =>
    cases bytes with
    | nil => simp [follow]
    | cons b rest =>
      rw [follow]
      split
      · exact Nat.le_succ_of_le (ih ..)
      · exact Nat.le_refl _

/-- The first character, and the bytes after it. -/
def first (b : UInt8) (rest : Bytes) : Char × Bytes :=
  match lead? b.toNat with
  | none => (replacement, rest)
  | some lead =>
    match follow lead.more lead.bits lead.low lead.high rest with
    | (some scalar, rest) => (Char.ofNat scalar, rest)
    | (none, rest) => (replacement, rest)

theorem length_first_le (b : UInt8) (rest : Bytes) : (first b rest).2.length ≤ rest.length := by
  rw [first]
  split
  · exact Nat.le_refl _
  · rename_i lead _
    have h := length_follow_le lead.more lead.bits lead.low lead.high rest
    split <;> rename_i heq <;> rw [heq] at h <;> exact h

/-- Each broken sequence, as long as its bytes still could begin a character, becomes one replacement
character. -/
def decode : Bytes → List Char
  | [] => []
  | b :: rest =>
    have := length_first_le b rest
    (first b rest).1 :: decode (first b rest).2
termination_by bytes => bytes.length

/-- The text of some bytes. -/
def decodeText (bytes : Bytes) : String := String.ofList (decode bytes)

end Retrace.Utf8
