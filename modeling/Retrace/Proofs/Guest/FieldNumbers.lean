import Mathlib.Algebra.BigOperators.Ring.Finset
import Mathlib.Tactic.Ring
import Retrace.Guest.Registers
import Retrace.Proofs.Log.Canonical

namespace Retrace

namespace Bytes

theorem toNat_take (bytes : Bytes) (width : Nat) :
    toNat (bytes.take width) =
      ∑ i ∈ Finset.range width, (bytes[i]?.getD 0).toNat * 256 ^ i := by
  induction width generalizing bytes with
  | zero => simp [toNat]
  | succ width ih =>
    cases bytes with
    | nil => simp [toNat]
    | cons b rest =>
      rw [List.take_succ_cons, toNat, ih, Finset.sum_range_succ', Finset.mul_sum, Nat.add_comm]
      simp only [List.getElem?_cons_succ, List.getElem?_cons_zero, Option.getD_some, Nat.pow_succ,
        Nat.pow_zero, Nat.mul_one]
      congr 1
      exact Finset.sum_congr rfl fun i _ => by ring

theorem toNat_inj {bytes bytes' : Bytes} (h : bytes.length = bytes'.length) :
    toNat bytes = toNat bytes' ↔ bytes = bytes' := by
  constructor
  · intro hsame
    rw [← ofNat_toNat bytes, ← ofNat_toNat bytes', h, hsame]
  · rintro rfl
    rfl

end Bytes

namespace Guest

namespace RegisterField

def numberIn (field : RegisterField) (image : Bytes) : Nat :=
  ∑ i ∈ Finset.range field.width, (image[field.offset + i]?.getD 0).toNat * 256 ^ i

theorem toNat_bytesIn (field : RegisterField) (image : Bytes) :
    Bytes.toNat (field.bytesIn image) = field.numberIn image := by
  rw [bytesIn, Bytes.slice, Bytes.toNat_take, numberIn]
  simp only [List.getElem?_drop]

/-- A value has room for the number in any field of up to eight bytes. -/
theorem toNat_valueIn {field : RegisterField} (h : field.width ≤ 8) (image : Bytes) :
    (field.valueIn image).toNat = field.numberIn image := by
  have hlength : (field.bytesIn image).length ≤ 8 := by
    rw [bytesIn, Bytes.slice]
    exact (List.length_take_le ..).trans h
  have hlt : Bytes.toNat (field.bytesIn image) < 2 ^ 64 :=
    (Bytes.toNat_lt _).trans_le (Nat.pow_le_pow_right (by decide) hlength)
  rw [valueIn, List.take_of_length_le hlength, UInt64.toNat_ofNat_of_lt' hlt, toNat_bytesIn]

theorem bytesIn_eq_iff {field : RegisterField} {image image' : Bytes}
    (h : field.stop ≤ image.length) (h' : field.stop ≤ image'.length) :
    field.bytesIn image = field.bytesIn image' ↔ field.numberIn image = field.numberIn image' := by
  have hlength : (field.bytesIn image).length = (field.bytesIn image').length := by
    rw [bytesIn, bytesIn, Bytes.length_slice_of_le h, Bytes.length_slice_of_le h']
  rw [← toNat_bytesIn, ← toNat_bytesIn, Bytes.toNat_inj hlength]

/-- What is told of a field whose numbers in two images are not the same: just these numbers. -/
structure Differs (field : RegisterField) (live recorded : Bytes) (m : FieldMismatch) : Prop where
  name : m.name = field.name
  runtime : m.runtime.toNat = field.numberIn live
  recorded : m.recorded.toNat = field.numberIn recorded
  ne : m.runtime ≠ m.recorded

end RegisterField

namespace RegisterLayout

def Fits (layout : RegisterLayout) (image : Bytes) : Prop :=
  ∀ field ∈ layout.fields, field.stop ≤ image.length

theorem fits_iff {layout : RegisterLayout} {image : Bytes} :
    layout.Fits image ↔ layout.minLength ≤ image.length := by
  obtain ⟨fields⟩ := layout
  rw [Fits, minLength]
  induction fields with
  | nil => simp
  | cons field fields ih => rw [List.forall_mem_cons, ih, List.foldr_cons, max_le_iff]

def differing (layout : RegisterLayout) (live recorded : Bytes) : List RegisterField :=
  layout.fields.filter fun field => field.numberIn live ≠ field.numberIn recorded

/-- Fields are compared byte by byte, which in an image that holds them all is to compare their numbers. -/
theorem diff_differs {layout : RegisterLayout} {live recorded : Bytes}
    (hwidth : ∀ field ∈ layout.fields, field.width ≤ 8) (hlive : layout.Fits live)
    (hrecorded : layout.Fits recorded) :
    List.Forall₂ (fun field m => field.Differs live recorded m) (layout.differing live recorded)
      (layout.diff live recorded) := by
  have hfields : (layout.fields.filter fun field =>
      field.bytesIn live != field.bytesIn recorded) = layout.differing live recorded := by
    refine List.filter_congr fun field hfield => ?_
    have hiff := field.bytesIn_eq_iff (hlive field hfield) (hrecorded field hfield)
    simp [bne, Bool.beq_eq_decide_eq, hiff]
  rw [diff, hfields, List.forall₂_map_right_iff, List.forall₂_same]
  intro field hfield
  obtain ⟨hfield, hne⟩ := List.mem_filter.mp hfield
  have hvalue := RegisterField.toNat_valueIn (hwidth field hfield)
  refine ⟨rfl, hvalue live, hvalue recorded, fun hsame => ?_⟩
  have hnumbers := congrArg UInt64.toNat hsame
  rw [hvalue, hvalue] at hnumbers
  exact of_decide_eq_true hne hnumbers

end RegisterLayout

end Guest

end Retrace
