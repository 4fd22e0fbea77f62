import Retrace.Log.Record
import Mathlib.Algebra.GroupWithZero.Nat

namespace Retrace

namespace Bytes

theorem toNat_ofNat (width n : Nat) : toNat (ofNat width n) = n % 256 ^ width := by
  induction width generalizing n with
  | zero => simp [ofNat, toNat, Nat.mod_one]
  | succ width ih =>
    have hpow : (256 : Nat) ^ (width + 1) = 256 * 256 ^ width := by rw [Nat.pow_succ, Nat.mul_comm]
    rw [ofNat, toNat, ih, hpow, Nat.mod_mul]
    simp

@[simp] theorem length_ofUInt32 (n : UInt32) : (ofUInt32 n).length = 4 := length_ofNat _ _

@[simp] theorem length_ofUInt64 (n : UInt64) : (ofUInt64 n).length = 8 := length_ofNat _ _

@[simp] theorem length_zeros (n : Nat) : (zeros n).length = n := List.length_replicate

theorem slice_append {front : Bytes} {width : Nat} (h : front.length = width) (rest : Bytes) :
    slice 0 width (front ++ rest) = front := by
  rw [slice, List.drop_zero, List.take_left' h]

theorem slice_append_of_le {front : Bytes} {offset : Nat} (h : front.length ≤ offset)
    (width : Nat) (rest : Bytes) :
    slice offset width (front ++ rest) = slice (offset - front.length) width rest := by
  rw [slice, slice, List.drop_append, List.drop_eq_nil_of_le h, List.nil_append]

@[simp] theorem uint32_append (n : UInt32) (rest : Bytes) : uint32 0 (ofUInt32 n ++ rest) = n := by
  have hlt : n.toNat < 256 ^ 4 := n.toNat_lt
  rw [uint32, slice_append (length_ofUInt32 n), ofUInt32, toNat_ofNat, Nat.mod_eq_of_lt hlt,
    UInt32.ofNat_toNat]

@[simp] theorem uint64_append (n : UInt64) (rest : Bytes) : uint64 0 (ofUInt64 n ++ rest) = n := by
  have hlt : n.toNat < 256 ^ 8 := n.toNat_lt
  rw [uint64, slice_append (length_ofUInt64 n), ofUInt64, toNat_ofNat, Nat.mod_eq_of_lt hlt,
    UInt64.ofNat_toNat]

theorem uint32_append_of_le {front : Bytes} {offset : Nat} (h : front.length ≤ offset)
    (rest : Bytes) : uint32 offset (front ++ rest) = uint32 (offset - front.length) rest := by
  rw [uint32, uint32, slice_append_of_le h]

theorem uint64_append_of_le {front : Bytes} {offset : Nat} (h : front.length ≤ offset)
    (rest : Bytes) : uint64 offset (front ++ rest) = uint64 (offset - front.length) rest := by
  rw [uint64, uint64, slice_append_of_le h]

end Bytes

namespace Log

@[simp] theorem ReleaseTag.ofBytes_append (tag : ReleaseTag) (rest : Bytes) :
    ofBytes (tag.bytes ++ rest) = tag := by
  obtain ⟨bytes, h⟩ := tag
  simp [ofBytes, ← h]

namespace Body

theorem length_fieldBytes_le (body : Body) : body.fieldBytes.length ≤ recordSize - 8 := by
  cases body <;> simp [fieldBytes, recordSize, ReleaseTag.length_bytes, releaseTagLength]

theorem decode_append (body : Body) (rest : Bytes) :
    decode body.kind (body.fieldBytes ++ rest) = .ok body := by
  cases body with
  | dispatchCounter before counter =>
    cases before <;> simp [decode, kind, fieldBytes, Bytes.uint64_append_of_le]
  | initClientStack stackSize auxv =>
    simp [decode, kind, fieldBytes, Bytes.uint64_append_of_le]
  | _ => simp [decode, kind, fieldBytes, Bytes.uint32_append_of_le, Bytes.uint64_append_of_le]

end Body

namespace Entry

@[simp] theorem length_encode (e : Entry) : e.encode.length = recordSize := by
  have hle := e.body.length_fieldBytes_le
  simp only [encode, List.length_append, Bytes.length_ofUInt32, Bytes.length_zeros, recordSize] at hle ⊢
  omega

@[simp] theorem decode_encode (e : Entry) : decode e.encode = .ok e := by
  simp only [encode, decode, List.append_assoc, Bytes.uint32_append, Kind.ofTag?_tag]
  have hthread : Bytes.uint32 4 (Bytes.ofUInt32 e.kind.tag ++ (Bytes.ofUInt32 e.thread.slot ++
      (e.body.fieldBytes ++ Bytes.zeros (recordSize - 8 - e.body.fieldBytes.length)))) =
        e.thread.slot := by
    rw [Bytes.uint32_append_of_le (by simp), Bytes.length_ofUInt32, Nat.sub_self,
      Bytes.uint32_append]
  have hfields : ∀ fields : Bytes, (Bytes.ofUInt32 e.kind.tag ++
      (Bytes.ofUInt32 e.thread.slot ++ fields)).drop 8 = fields := by
    intro fields
    rw [← List.append_assoc]
    exact List.drop_left' (by simp)
  rw [hthread, hfields]
  exact congrArg (Except.map _) (e.body.decode_append _)

/-- A record loses nothing of its entry: all records have one size, each is decoded to the entry it was
made of, and no two entries share a record. -/
theorem encode_lossless :
    (∀ e : Entry, e.encode.length = 24 ∧ decode e.encode = .ok e) ∧ Function.Injective encode := by
  constructor
  · intro e
    exact ⟨e.length_encode, e.decode_encode⟩
  · intro e e' h
    have hdecode : decode e.encode = decode e'.encode := congrArg decode h
    rw [decode_encode, decode_encode] at hdecode
    exact Except.ok.inj hdecode

end Entry

end Log

end Retrace
