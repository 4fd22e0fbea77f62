import Retrace.Proofs.Log.Codec
import Mathlib.Tactic.IntervalCases

namespace Retrace

namespace Bytes

theorem length_slice_of_le {offset width : Nat} {bytes : Bytes} (h : offset + width ≤ bytes.length) :
    (slice offset width bytes).length = width := by
  rw [slice, List.length_take, List.length_drop]
  omega

theorem toNat_lt (bytes : Bytes) : toNat bytes < 256 ^ bytes.length := by
  induction bytes with
  | nil => decide
  | cons b rest ih =>
    have hb : b.toNat < 256 := b.toNat_lt
    rw [toNat, List.length_cons, Nat.pow_succ]
    omega

theorem ofUInt32_uint32 {offset : Nat} {bytes : Bytes} (h : offset + 4 ≤ bytes.length) :
    ofUInt32 (uint32 offset bytes) = slice offset 4 bytes := by
  have hlen := length_slice_of_le h
  have hlt := toNat_lt (slice offset 4 bytes)
  have hback := ofNat_toNat (slice offset 4 bytes)
  rw [hlen] at hlt hback
  rw [ofUInt32, uint32, UInt32.toNat_ofNat_of_lt' hlt, hback]

theorem ofUInt64_uint64 {offset : Nat} {bytes : Bytes} (h : offset + 8 ≤ bytes.length) :
    ofUInt64 (uint64 offset bytes) = slice offset 8 bytes := by
  have hlen := length_slice_of_le h
  have hlt := toNat_lt (slice offset 8 bytes)
  have hback := ofNat_toNat (slice offset 8 bytes)
  rw [hlen] at hlt hback
  rw [ofUInt64, uint64, UInt64.toNat_ofNat_of_lt' hlt, hback]

theorem slice_append_slice (offset width width' : Nat) (bytes : Bytes) :
    slice offset width bytes ++ slice (offset + width) width' bytes =
      slice offset (width + width') bytes := by
  rw [slice, slice, slice, List.take_add, List.drop_drop]

theorem uint32_drop (start offset : Nat) (bytes : Bytes) :
    uint32 offset (bytes.drop start) = uint32 (start + offset) bytes := by
  rw [uint32, uint32, slice, slice, List.drop_drop]

theorem uint64_drop (start offset : Nat) (bytes : Bytes) :
    uint64 offset (bytes.drop start) = uint64 (start + offset) bytes := by
  rw [uint64, uint64, slice, slice, List.drop_drop]

/-- A run of bytes with zeros at the offsets that are not kept. -/
def blank (keeps : Nat → Bool) (bytes : Bytes) : Bytes :=
  bytes.mapIdx fun offset b => if keeps offset then b else 0

theorem blank_append (keeps : Nat → Bool) (front rest : Bytes) :
    blank keeps (front ++ rest) =
      blank keeps front ++ blank (fun offset => keeps (front.length + offset)) rest := by
  simp only [blank, List.mapIdx_append, Nat.add_comm]

theorem getElem?_blank (keeps : Nat → Bool) (bytes : Bytes) (offset : Nat) :
    (blank keeps bytes)[offset]? = bytes[offset]?.map fun b => if keeps offset then b else 0 :=
  List.getElem?_mapIdx

theorem blank_eq_self_iff (keeps : Nat → Bool) (bytes : Bytes) :
    blank keeps bytes = bytes ↔
      ∀ offset (h : offset < bytes.length), keeps offset = false → bytes[offset] = 0 := by
  constructor
  · intro h offset hlt hkeeps
    have hat : (blank keeps bytes)[offset]? = bytes[offset]? := by rw [h]
    rw [getElem?_blank, List.getElem?_eq_getElem hlt, Option.map_some, hkeeps] at hat
    exact (Option.some.inj hat).symm
  · intro h
    apply List.ext_getElem?
    intro offset
    rw [getElem?_blank]
    by_cases hlt : offset < bytes.length
    · rw [List.getElem?_eq_getElem hlt, Option.map_some]
      cases hkeeps : keeps offset with
      | true => rfl
      | false => exact congrArg some (h offset hlt hkeeps).symm
    · rw [List.getElem?_eq_none (Nat.le_of_not_lt hlt), Option.map_none]

theorem blank_of_kept {keeps : Nat → Bool} {bytes : Bytes}
    (h : ∀ offset < bytes.length, keeps offset = true) : blank keeps bytes = bytes := by
  rw [blank_eq_self_iff]
  intro offset hlt hkeeps
  rw [h offset hlt] at hkeeps
  contradiction

theorem blank_of_not_kept {keeps : Nat → Bool} {bytes : Bytes}
    (h : ∀ offset < bytes.length, keeps offset = false) : blank keeps bytes = zeros bytes.length := by
  apply List.ext_getElem?
  intro offset
  rw [getElem?_blank, zeros, List.getElem?_replicate]
  by_cases hlt : offset < bytes.length
  · rw [List.getElem?_eq_getElem hlt, Option.map_some, h offset hlt, if_pos hlt]
    rfl
  · rw [List.getElem?_eq_none (Nat.le_of_not_lt hlt), Option.map_none, if_neg hlt]

end Bytes

namespace Log

namespace Kind

/-- How many of the sixteen bytes behind the thread the fields of a kind take up. -/
def fieldWidth : Kind → Nat
  | clientCmdline => 4
  | syscallArgs | syscallRet | threadCreate | acquire | timestamp | snapshot => 8
  | dispatchCounter | release | initClientStack | initMemLayout | data => 16

/-- Whether an offset lies between the two words of an initial stack. -/
def pads (kind : Kind) (offset : Nat) : Bool :=
  kind == initClientStack && 12 ≤ offset && offset < 16

/-- Whether a kind has a use for the byte at an offset of its records. -/
def uses (kind : Kind) (offset : Nat) : Bool :=
  offset < 8 + kind.fieldWidth && !kind.pads offset

theorem fieldWidth_le (kind : Kind) : kind.fieldWidth ≤ 16 := by cases kind <;> decide

theorem uses_iff {kind : Kind} {offset : Nat} : kind.uses offset = true ↔
    offset < 8 + kind.fieldWidth ∧ ¬ (kind = initClientStack ∧ 12 ≤ offset ∧ offset < 16) := by
  simp only [uses, pads, Bool.and_eq_true, Bool.not_eq_true', ← Bool.not_eq_true, decide_eq_true_eq,
    beq_iff_eq, and_assoc]

theorem uses_of_lt_eight (kind : Kind) {offset : Nat} (h : offset < 8) : kind.uses offset = true :=
  uses_iff.mpr (by omega)

theorem not_uses_of_le {kind : Kind} {offset : Nat} (h : 8 + kind.fieldWidth ≤ offset) :
    kind.uses offset = false := by
  rw [Bool.eq_false_iff, ne_eq, uses_iff]
  omega

theorem uses_of_lt_fieldWidth {kind : Kind} (hkind : kind ≠ initClientStack) {offset : Nat}
    (h : offset < kind.fieldWidth) : kind.uses (8 + offset) = true :=
  uses_iff.mpr ⟨by omega, fun hpad => hkind hpad.1⟩

theorem uses_initClientStack_iff {offset : Nat} :
    initClientStack.uses offset = true ↔ offset < 12 ∨ 16 ≤ offset ∧ offset < 24 := by
  rw [uses_iff, fieldWidth]
  simp only [true_and]
  omega

theorem ofTag?_isSome_iff (tag : UInt32) :
    (ofTag? tag).isSome ↔ 1 ≤ tag.toNat ∧ tag.toNat ≤ 12 := by
  constructor
  · intro h
    obtain ⟨kind, hkind⟩ := Option.isSome_iff_exists.mp h
    rw [← tag_of_ofTag? hkind]
    cases kind <;> decide
  · rintro ⟨hlow, hhigh⟩
    obtain ⟨n, hn⟩ : ∃ n, n = tag.toNat := ⟨_, rfl⟩
    obtain rfl : tag = UInt32.ofNat n := by rw [hn, UInt32.ofNat_toNat]
    rw [← hn] at hlow hhigh
    interval_cases n <;> decide

end Kind

theorem CallerClass.wire_of_ofWire? {value : UInt32} {callerClass : CallerClass}
    (h : ofWire? value = some callerClass) : callerClass.wire = value := by
  simpa using List.find?_some h

theorem CallerClass.ofWire?_eq_none_iff (value : UInt32) :
    ofWire? value = none ↔ value ≠ 0 ∧ value ≠ 1 ∧ value ≠ 0xFFFFFFFF := by
  simp only [ofWire?, List.find?_eq_none, all, wire, List.forall_mem_cons, beq_iff_eq]
  simp [eq_comm]

namespace Body

theorem kind_of_decode {kind : Kind} {bytes : Bytes} {body : Body} (h : decode kind bytes = .ok body) :
    body.kind = kind := by
  cases kind with
  | dispatchCounter =>
    simp only [decode] at h
    split at h
    · cases h; rfl
    · split at h
      · cases h; rfl
      · cases h
  | acquire =>
    simp only [decode] at h
    split at h
    · cases h; rfl
    · cases h
  | _ => cases h; rfl

theorem fieldBytes_of_decode {kind : Kind} {bytes : Bytes} {body : Body} (hlen : bytes.length = 16)
    (hkind : kind ≠ .initClientStack) (h : decode kind bytes = .ok body) :
    body.fieldBytes = Bytes.slice 0 kind.fieldWidth bytes := by
  have hhalves : Bytes.slice 0 4 bytes ++ Bytes.slice 4 4 bytes = Bytes.slice 0 8 bytes :=
    Bytes.slice_append_slice 0 4 4 bytes
  have hwords : Bytes.slice 0 8 bytes ++ Bytes.slice 8 8 bytes = Bytes.slice 0 16 bytes :=
    Bytes.slice_append_slice 0 8 8 bytes
  cases kind with
  | initClientStack => contradiction
  | dispatchCounter =>
    have hphase : Bytes.ofUInt64 (Bytes.uint64 0 bytes) = Bytes.slice 0 8 bytes :=
      Bytes.ofUInt64_uint64 (by omega)
    simp only [decode] at h
    split at h
    next hafter =>
      cases h
      rw [hafter] at hphase
      simp [fieldBytes, hphase, Bytes.ofUInt64_uint64, hlen, Kind.fieldWidth, hwords]
    next =>
      split at h
      next hbefore =>
        cases h
        rw [hbefore] at hphase
        simp [fieldBytes, hphase, Bytes.ofUInt64_uint64, hlen, Kind.fieldWidth, hwords]
      next => cases h
  | acquire =>
    simp only [decode] at h
    split at h
    next callerClass hclass =>
      cases h
      simp [fieldBytes, CallerClass.wire_of_ofWire? hclass, Bytes.ofUInt32_uint32, hlen,
        Kind.fieldWidth, hhalves]
    next => cases h
  | release =>
    cases h
    simp [fieldBytes, ReleaseTag.ofBytes, Kind.fieldWidth, releaseTagLength, Bytes.slice, ← hlen]
  | _ =>
    cases h
    simp [fieldBytes, Bytes.ofUInt32_uint32, Bytes.ofUInt64_uint64, hlen, Kind.fieldWidth, hhalves,
      hwords]

/-- Encoding the fields again clears the bytes that the kind has no use for. -/
theorem padded_of_decode {kind : Kind} {bytes : Bytes} {body : Body} (hlen : bytes.length = 16)
    (h : decode kind bytes = .ok body) :
    body.fieldBytes ++ Bytes.zeros (16 - body.fieldBytes.length) =
      Bytes.blank (fun offset => kind.uses (8 + offset)) bytes := by
  by_cases hkind : kind = .initClientStack
  · subst hkind
    cases h
    have hbytes : bytes =
        Bytes.slice 0 4 bytes ++ (Bytes.slice 4 4 bytes ++ Bytes.slice 8 8 bytes) := by
      rw [Bytes.slice_append_slice 4 4 8, Bytes.slice_append_slice 0 4 12, Bytes.slice,
        List.drop_zero, List.take_of_length_le (Nat.le_of_eq hlen)]
    have hsize : (Bytes.slice 0 4 bytes).length = 4 := Bytes.length_slice_of_le (by omega)
    have hpad : (Bytes.slice 4 4 bytes).length = 4 := Bytes.length_slice_of_le (by omega)
    have hauxv : (Bytes.slice 8 8 bytes).length = 8 := Bytes.length_slice_of_le (by omega)
    conv_rhs => rw [hbytes]
    rw [Bytes.blank_append, Bytes.blank_append, Bytes.blank_of_kept, Bytes.blank_of_not_kept,
      Bytes.blank_of_kept, hpad, fieldBytes, Bytes.ofUInt32_uint32 (by omega),
      Bytes.ofUInt64_uint64 (by omega)]
    · simp [hsize, hauxv, Bytes.zeros]
    · intro offset hlt
      exact Kind.uses_initClientStack_iff.mpr (by omega)
    · intro offset hlt
      rw [Bool.eq_false_iff, ne_eq, Kind.uses_initClientStack_iff]
      omega
    · intro offset hlt
      exact Kind.uses_initClientStack_iff.mpr (by omega)
  · have hfields := fieldBytes_of_decode hlen hkind h
    have hwidth := kind.fieldWidth_le
    obtain ⟨front, rest, hfront, hbytes⟩ : ∃ front rest : Bytes, front.length = kind.fieldWidth ∧
        bytes = front ++ rest := ⟨bytes.take kind.fieldWidth, bytes.drop kind.fieldWidth,
      by rw [List.length_take]; omega, (List.take_append_drop ..).symm⟩
    subst hbytes
    rw [hfields, Bytes.slice_append hfront, Bytes.blank_append, Bytes.blank_of_kept,
      Bytes.blank_of_not_kept]
    · rw [← hlen, List.length_append, Nat.add_sub_cancel_left]
    · intro offset _
      exact Kind.not_uses_of_le (by omega)
    · intro offset hlt
      exact Kind.uses_of_lt_fieldWidth hkind (hfront ▸ hlt)

theorem decode_ok {kind : Kind} {bytes : Bytes}
    (hphase : kind = .dispatchCounter → Bytes.uint64 0 bytes = 0 ∨ Bytes.uint64 0 bytes = 1)
    (hclass : kind = .acquire → Bytes.uint32 4 bytes = 0 ∨ Bytes.uint32 4 bytes = 1 ∨
      Bytes.uint32 4 bytes = 0xFFFFFFFF) : ∃ body, decode kind bytes = .ok body := by
  cases kind with
  | dispatchCounter =>
    rcases hphase rfl with hafter | hbefore
    · exact ⟨_, if_pos hafter⟩
    · have hne : Bytes.uint64 0 bytes ≠ 0 := by rw [hbefore]; decide
      exact ⟨_, (if_neg hne).trans (if_pos hbefore)⟩
  | acquire =>
    cases hwire : CallerClass.ofWire? (Bytes.uint32 4 bytes) with
    | none =>
      obtain ⟨hnormal, hpreempt, hunknown⟩ := (CallerClass.ofWire?_eq_none_iff _).mp hwire
      rcases hclass rfl with h | h | h <;> contradiction
    | some callerClass =>
      exact ⟨acquire ⟨Bytes.uint32 0 bytes⟩ callerClass, by simp only [decode, hwire]⟩
  | _ => exact ⟨_, rfl⟩

theorem decode_of_bad_phase {bytes : Bytes}
    (h : ¬ (Bytes.uint64 0 bytes = 0 ∨ Bytes.uint64 0 bytes = 1)) :
    decode .dispatchCounter bytes =
      .error (.invalidField .dispatchCounter "is_before" (Bytes.uint64 0 bytes).toNat) := by
  obtain ⟨hafter, hbefore⟩ := not_or.mp h
  exact (if_neg hafter).trans (if_neg hbefore)

theorem decode_of_bad_class {bytes : Bytes} (h : ¬ (Bytes.uint32 4 bytes = 0 ∨
      Bytes.uint32 4 bytes = 1 ∨ Bytes.uint32 4 bytes = 0xFFFFFFFF)) :
    decode .acquire bytes =
      .error (.invalidField .acquire "caller_class" (Bytes.uint32 4 bytes).toNat) := by
  have hwire : CallerClass.ofWire? (Bytes.uint32 4 bytes) = none := by
    simpa only [CallerClass.ofWire?_eq_none_iff, not_or] using h
  simp only [decode, hwire]

end Body

namespace Entry

/-- What the words of a record that holds an entry say. -/
structure Legible (record : Bytes) : Prop where
  kind : 1 ≤ (Bytes.uint32 0 record).toNat ∧ (Bytes.uint32 0 record).toNat ≤ 12
  isBefore : Bytes.uint32 0 record = 3 → Bytes.uint64 8 record = 0 ∨ Bytes.uint64 8 record = 1
  callerClass : Bytes.uint32 0 record = 5 →
    Bytes.uint32 12 record = 0 ∨ Bytes.uint32 12 record = 1 ∨ Bytes.uint32 12 record = 0xFFFFFFFF

/-- Why a record holds no entry. -/
inductive Fault (record : Bytes) : LogError → Prop
  | kind (h : ¬ (1 ≤ (Bytes.uint32 0 record).toNat ∧ (Bytes.uint32 0 record).toNat ≤ 12)) :
      Fault record (.unknownKind (Bytes.uint32 0 record))
  | isBefore (htag : Bytes.uint32 0 record = 3)
      (h : ¬ (Bytes.uint64 8 record = 0 ∨ Bytes.uint64 8 record = 1)) :
      Fault record (.invalidField .dispatchCounter "is_before" (Bytes.uint64 8 record).toNat)
  | callerClass (htag : Bytes.uint32 0 record = 5)
      (h : ¬ (Bytes.uint32 12 record = 0 ∨ Bytes.uint32 12 record = 1 ∨
        Bytes.uint32 12 record = 0xFFFFFFFF)) :
      Fault record (.invalidField .acquire "caller_class" (Bytes.uint32 12 record).toNat)

theorem legible_or_fault (record : Bytes) : Legible record ∨ ∃ err, Fault record err := by
  by_cases hkind : 1 ≤ (Bytes.uint32 0 record).toNat ∧ (Bytes.uint32 0 record).toNat ≤ 12
  · by_cases hphase : Bytes.uint32 0 record = 3 →
        Bytes.uint64 8 record = 0 ∨ Bytes.uint64 8 record = 1
    · by_cases hclass : Bytes.uint32 0 record = 5 → Bytes.uint32 12 record = 0 ∨
          Bytes.uint32 12 record = 1 ∨ Bytes.uint32 12 record = 0xFFFFFFFF
      · exact .inl ⟨hkind, hphase, hclass⟩
      · obtain ⟨htag, hclass⟩ := Classical.not_imp.mp hclass
        exact .inr ⟨_, .callerClass htag hclass⟩
    · obtain ⟨htag, hphase⟩ := Classical.not_imp.mp hphase
      exact .inr ⟨_, .isBefore htag hphase⟩
  · exact .inr ⟨_, .kind hkind⟩

theorem decode_of_kind {record : Bytes} {kind : Kind}
    (h : Kind.ofTag? (Bytes.uint32 0 record) = some kind) :
    decode record = (Body.decode kind (record.drop 8)).map
      fun body => ⟨⟨Bytes.uint32 4 record⟩, body⟩ := by
  simp only [decode, h]

theorem Legible.decode {record : Bytes} (h : Legible record) : ∃ e, decode record = .ok e := by
  obtain ⟨kind, hkind⟩ := Option.isSome_iff_exists.mp ((Kind.ofTag?_isSome_iff _).mpr h.kind)
  have htag := Kind.tag_of_ofTag? hkind
  obtain ⟨body, hbody⟩ : ∃ body, Body.decode kind (record.drop 8) = .ok body := by
    apply Body.decode_ok
    · rintro rfl
      rw [Bytes.uint64_drop]
      exact h.isBefore htag.symm
    · rintro rfl
      rw [Bytes.uint32_drop]
      exact h.callerClass htag.symm
  rw [decode_of_kind hkind, hbody]
  exact ⟨_, rfl⟩

theorem Fault.decode {record : Bytes} {err : LogError} (h : Fault record err) :
    decode record = .error err := by
  cases h with
  | kind hkind =>
    have hnone : Kind.ofTag? (Bytes.uint32 0 record) = none := by
      rwa [← Kind.ofTag?_isSome_iff, Option.not_isSome_iff_eq_none] at hkind
    simp only [Entry.decode, hnone]
  | isBefore htag hphase =>
    rw [decode_of_kind (by rw [htag]; rfl : _ = some .dispatchCounter),
      Body.decode_of_bad_phase (by rwa [Bytes.uint64_drop]), Bytes.uint64_drop]
    rfl
  | callerClass htag hclass =>
    rw [decode_of_kind (by rw [htag]; rfl : _ = some .acquire),
      Body.decode_of_bad_class (by rwa [Bytes.uint32_drop]), Bytes.uint32_drop]
    rfl

theorem decode_ok_iff (record : Bytes) : (∃ e, decode record = .ok e) ↔ Legible record := by
  constructor
  · rintro ⟨e, he⟩
    rcases legible_or_fault record with hlegible | ⟨err, hfault⟩
    · exact hlegible
    · rw [hfault.decode] at he
      cases he
  · exact Legible.decode

theorem decode_error_iff (record : Bytes) (err : LogError) :
    decode record = .error err ↔ Fault record err := by
  constructor
  · intro h
    rcases legible_or_fault record with hlegible | ⟨err', hfault⟩
    · obtain ⟨e, he⟩ := hlegible.decode
      rw [he] at h
      cases h
    · rw [hfault.decode] at h
      cases h
      exact hfault
  · exact Fault.decode

theorem encode_of_decode {record : Bytes} {e : Entry} (hlen : record.length = 24)
    (h : decode record = .ok e) : e.encode = Bytes.blank e.kind.uses record := by
  simp only [decode] at h
  split at h
  next => cases h
  next kind hkind =>
    cases hbody : Body.decode kind (record.drop 8) with
    | error err =>
      rw [hbody] at h
      cases h
    | ok body =>
      rw [hbody] at h
      cases h
      have hwhole : record = record.take 8 ++ record.drop 8 := (List.take_append_drop 8 record).symm
      have hfront : (record.take 8).length = 8 := by simp [hlen]
      have hpadded := Body.padded_of_decode (by simp [hlen]) hbody
      obtain rfl := Body.kind_of_decode hbody
      have hheader : Bytes.slice 0 4 record ++ Bytes.slice 4 4 record = record.take 8 :=
        Bytes.slice_append_slice 0 4 4 record
      conv_rhs => rw [hwhole]
      rw [Bytes.blank_append, Bytes.blank_of_kept, hfront]
      · simp only [encode, kind, Kind.tag_of_ofTag? hkind, recordSize]
        rw [Bytes.ofUInt32_uint32 (by omega), Bytes.ofUInt32_uint32 (by omega), hheader,
          List.append_assoc, hpadded]
      · intro offset hlt
        exact Kind.uses_of_lt_eight _ (hfront ▸ hlt)

/-- The language of records and their canonical form: which of the runs of 24 bytes hold an entry, why
each other one does not, and that encoding changes in a record only the bytes its kind has no use for,
which it clears. -/
theorem records_canonical {record : Bytes} (hlen : record.length = 24) :
    ((∃ e, decode record = .ok e) ↔ Legible record) ∧
    (∀ err, decode record = .error err ↔ Fault record err) ∧
    ∀ e, decode record = .ok e →
      e.encode = Bytes.blank e.kind.uses record ∧ decode e.encode = .ok e ∧
      (e.encode = record ↔ ∀ offset (h : offset < record.length),
        e.kind.uses offset = false → record[offset] = 0) := by
  refine ⟨decode_ok_iff record, decode_error_iff record, ?_⟩
  intro e h
  have hencode := encode_of_decode hlen h
  refine ⟨hencode, decode_encode e, ?_⟩
  rw [hencode]
  exact Bytes.blank_eq_self_iff e.kind.uses record

def paddedStack : Bytes :=
  [9, 0, 0, 0, 1, 0, 0, 0, 0, 16, 0, 0, 170, 0, 0, 187, 1, 2, 3, 4, 5, 6, 7, 8]

theorem paddedStack_cleared : paddedStack.length = 24 ∧ ∃ e, decode paddedStack = .ok e ∧
    e.encode = Bytes.blank Kind.initClientStack.uses paddedStack ∧ e.encode ≠ paddedStack := by
  have hlen : paddedStack.length = 24 := by decide
  obtain ⟨-, -, hcanonical⟩ := records_canonical hlen
  have hdecode : decode paddedStack = .ok ⟨⟨1⟩, .initClientStack 4096 578437695752307201⟩ := by
    decide +kernel
  obtain ⟨hencode, _, hself⟩ := hcanonical _ hdecode
  refine ⟨hlen, _, hdecode, hencode, ?_⟩
  intro h
  have hpad : (170 : UInt8) = 0 := hself.mp h 12 (by decide) (by decide)
  exact absurd hpad (by decide)

end Entry

end Log

end Retrace
