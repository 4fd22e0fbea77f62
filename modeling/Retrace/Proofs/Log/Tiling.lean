import Retrace.Proofs.Log.Resolving

namespace Retrace.Log

/-- What stands behind the last passage of a log, and the error in it unless it is the end. -/
inductive Remainder : Bytes → Option LogError → Prop
  | nothing : Remainder [] none
  | shortRecord {rest : Bytes} (pos : 0 < rest.length) (short : rest.length < recordSize) :
    Remainder rest (some (.truncated recordSize rest.length))
  | undecodable {record : Bytes} {e : LogError} (length_record : record.length = recordSize)
    (decode_record : Entry.decode record = .error e) (rest : Bytes) :
    Remainder (record ++ rest) (some e)
  | shortPayload {record payload : Bytes} {entry : Entry} (length_record : record.length = recordSize)
    (decode_record : Entry.decode record = .ok entry)
    (short : payload.length < entry.payloadLength) :
    Remainder (record ++ payload) (some (.truncated entry.payloadLength payload.length))

namespace Passage

theorem front_or_remainder (log : Bytes) :
    (∃ p : Passage, ∃ rest, log = p.bytes ++ rest) ∨ ∃ ending, Remainder log ending := by
  rcases Reader.front_cases log with rfl | ⟨hpos, hshort⟩ | ⟨record, rest, rfl, hlength⟩
  · exact .inr ⟨none, .nothing⟩
  · exact .inr ⟨_, .shortRecord hpos hshort⟩
  · cases hdecode : Entry.decode record with
    | error e => exact .inr ⟨_, .undecodable hlength hdecode rest⟩
    | ok entry =>
      by_cases hshort : rest.length < entry.payloadLength
      · exact .inr ⟨_, .shortPayload hlength hdecode hshort⟩
      · have hpayload : (rest.take entry.payloadLength).length = entry.payloadLength :=
          List.length_take_of_le (Nat.le_of_not_lt hshort)
        let p : Passage :=
          ⟨record, entry, rest.take entry.payloadLength, hlength, hdecode, hpayload⟩
        have hbytes : p.bytes ++ rest.drop entry.payloadLength = record ++ rest := by
          rw [p.bytes_append, List.take_append_drop]
        exact .inl ⟨p, rest.drop entry.payloadLength, hbytes.symm⟩

/-- Any bytes are passages one behind the other, and a remainder that begins with no passage. -/
theorem exists_tiling (log : Bytes) :
    ∃ passages rest ending, log = join passages ++ rest ∧ Remainder rest ending := by
  induction hlength : log.length using Nat.strongRecOn generalizing log with
  | ind length ih =>
    rcases front_or_remainder log with ⟨p, behind, rfl⟩ | ⟨ending, hremainder⟩
    · have hshorter : behind.length < length := by
        rw [List.length_append, p.length_bytes, size, recordSize] at hlength
        omega
      obtain ⟨passages, rest, ending, hbehind, hremainder⟩ := ih behind.length hshorter behind rfl
      refine ⟨p :: passages, rest, ending, ?_, hremainder⟩
      rw [join_cons, List.append_assoc, ← hbehind]
    · exact ⟨[], log, ending, rfl, hremainder⟩

end Passage

namespace Cursor

theorem plain_walk_undecodable {record : Bytes} {e : LogError} (hlength : record.length = recordSize)
    (hdecode : Entry.decode record = .error e) (rest : Bytes) (index offset : Nat) :
    (plain (record ++ rest) index offset).walk =
      ([.error e],
        { source := .plain rest (offset + recordSize), index, offset, failed := true }) := by
  have hrecord := Source.plain_readRecord_append hlength rest offset
  rw [walk_eq]
  simp [next, readNext, plain, hrecord, hdecode, walk]

theorem plain_walk_remainder {rest : Bytes} {ending : Option LogError} (h : Remainder rest ending)
    (index offset : Nat) :
    (plain rest index offset).walk.1 = (ending.map .error).toList := by
  cases h with
  | nothing =>
    rw [plain_walk_nil]
    rfl
  | shortRecord hpos hshort =>
    rw [plain_walk_short_record hpos hshort]
    rfl
  | undecodable hlength hdecode =>
    rw [plain_walk_undecodable hlength hdecode]
    rfl
  | shortPayload hlength hdecode hshort =>
    rw [plain_walk_short_payload hlength hdecode hshort]
    rfl

/-- A cursor shows the passages of a log, and then the error in its remainder. -/
theorem items_tiling {passages : List Passage} {rest : Bytes} {ending : Option LogError}
    (h : Remainder rest ending) :
    items (.ofBytes (Passage.join passages ++ rest)) =
      (layOut 0 0 (passages.map Passage.logged)).map .ok ++ (ending.map .error).toList := by
  rw [items_ofBytes, plain_walk_join, plain_walk_remainder h]

end Cursor

end Retrace.Log
