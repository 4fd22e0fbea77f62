import Retrace.Proofs.Log.Lockstep

namespace Retrace.Log

def Recorded.stop (r : Recorded) : Nat := r.offset + (recordSize + r.payload.length)

/-- An entry is in a log where it was found: the record there is decoded to it, and as many bytes as it
declares follow as its payload. -/
structure Recorded.StandsIn (r : Recorded) (log : Bytes) : Prop where
  length_record : (Bytes.slice r.offset recordSize log).length = recordSize
  decode_record : Entry.decode (Bytes.slice r.offset recordSize log) = .ok r.entry
  payload_eq : Bytes.slice (r.offset + recordSize) r.entry.payloadLength log = r.payload
  length_payload : r.payload.length = r.entry.payloadLength

theorem Passage.standsIn (p : Passage) (front tail : Bytes) (index : Nat) :
    Recorded.StandsIn ⟨index, front.length, p.entry, p.payload⟩ (front ++ (p.bytes ++ tail)) := by
  have hrecord : Bytes.slice front.length recordSize (front ++ (p.bytes ++ tail)) = p.record := by
    rw [Bytes.slice_append_of_le (Nat.le_refl _), Nat.sub_self, p.bytes_append,
      Bytes.slice_append p.length_record]
  have hpayload : Bytes.slice (front.length + recordSize) p.entry.payloadLength
      (front ++ (p.bytes ++ tail)) = p.payload := by
    rw [Bytes.slice_append_of_le (Nat.le_add_right _ _), Nat.add_sub_cancel_left, p.bytes_append,
      Bytes.slice_append_of_le (Nat.le_of_eq p.length_record), p.length_record, Nat.sub_self,
      Bytes.slice_append p.length_payload]
  constructor
  case length_record => rw [hrecord, p.length_record]
  case decode_record => rw [hrecord, p.decode_record]
  case payload_eq => exact hpayload
  case length_payload => exact p.length_payload

theorem standsIn_of_mem_layOut {passages : List Passage} {front tail : Bytes} {index : Nat}
    {r : Recorded} (h : r ∈ layOut index front.length (passages.map Passage.logged)) :
    r.StandsIn (front ++ (Passage.join passages ++ tail)) := by
  induction passages generalizing index front with
  | nil => cases h
  | cons p passages ih =>
    rw [Passage.join_cons, List.append_assoc]
    rcases List.mem_cons.mp h with rfl | hrest
    · exact p.standsIn front _ index
    · rw [← List.append_assoc]
      apply ih
      rw [List.length_append, p.length_bytes]
      exact hrest

theorem index_of_layOut {index offset : Nat} {records : List (Entry × Bytes)} {i : Nat}
    {r : Recorded} (h : (layOut index offset records)[i]? = some r) : r.index = index + i := by
  induction records generalizing index offset i with
  | nil => cases h
  | cons record records ih =>
    cases i with
    | zero =>
      cases h
      rfl
    | succ i =>
      have hindex := ih h
      omega

theorem offset_of_layOut {index offset : Nat} {records : List (Entry × Bytes)} {i : Nat}
    {r next : Recorded} (h : (layOut index offset records)[i]? = some r)
    (hnext : (layOut index offset records)[i + 1]? = some next) : next.offset = r.stop := by
  induction records generalizing index offset i with
  | nil => cases h
  | cons record records ih =>
    cases i with
    | zero =>
      cases h
      cases records with
      | nil => cases hnext
      | cons record' records =>
        cases hnext
        rfl
    | succ i => exact ih h hnext

theorem stop_getLast?_cons (first : Recorded) (behind : List Recorded) (offset : Nat) :
    ((first :: behind).getLast?.map Recorded.stop).getD offset =
      (behind.getLast?.map Recorded.stop).getD first.stop := by
  rw [List.getLast?_cons]
  cases behind.getLast? with
  | none => rfl
  | some last => rfl

theorem stop_of_layOut (index offset : Nat) (passages : List Passage) :
    ((layOut index offset (passages.map Passage.logged)).getLast?.map Recorded.stop).getD offset =
      offset + (Passage.join passages).length := by
  induction passages generalizing index offset with
  | nil => rfl
  | cons p passages ih =>
    calc ((layOut index offset ((p :: passages).map Passage.logged)).getLast?.map
            Recorded.stop).getD offset
        = ((layOut (index + 1) (offset + p.size) (passages.map Passage.logged)).getLast?.map
            Recorded.stop).getD (offset + p.size) := stop_getLast?_cons _ _ _
      _ = offset + p.size + (Passage.join passages).length := ih _ _
      _ = offset + (Passage.join (p :: passages)).length := by
          rw [Passage.join_cons, List.length_append, p.length_bytes, Nat.add_assoc]

theorem Passage.length_le_join (passages : List Passage) :
    passages.length * recordSize ≤ (join passages).length := by
  induction passages with
  | nil => exact Nat.zero_le _
  | cons p passages ih =>
    rw [List.length_cons, join_cons, List.length_append, p.length_bytes, size, Nat.succ_mul]
    omega

theorem Remainder.eq_none_iff {rest : Bytes} {ending : Option LogError} (h : Remainder rest ending) :
    ending = none ↔ rest.length = 0 := by
  have hrecord {record : Bytes} (hlength : record.length = recordSize) (behind : Bytes) :
      (record ++ behind).length ≠ 0 := by
    rw [List.length_append, hlength, recordSize]
    omega
  cases h with
  | nothing => exact iff_of_true rfl rfl
  | shortRecord hpos _ => exact iff_of_false (Option.some_ne_none _) (Nat.ne_of_gt hpos)
  | undecodable hlength _ behind => exact iff_of_false (Option.some_ne_none _) (hrecord hlength behind)
  | shortPayload hlength _ _ => exact iff_of_false (Option.some_ne_none _) (hrecord hlength _)

namespace Cursor

theorem plain_walk_end {rest : Bytes} {ending : Option LogError} (h : Remainder rest ending)
    (index offset : Nat) :
    (plain rest index offset).walk.2.offset = offset ∧
      (plain rest index offset).walk.2.next = (none, (plain rest index offset).walk.2) := by
  cases h with
  | nothing =>
    rw [plain_walk_nil]
    exact ⟨rfl, plain_next_nil _ _⟩
  | shortRecord hpos hshort =>
    rw [plain_walk_short_record hpos hshort]
    exact ⟨rfl, rfl⟩
  | undecodable hlength hdecode =>
    rw [plain_walk_undecodable hlength hdecode]
    exact ⟨rfl, rfl⟩
  | shortPayload hlength hdecode hshort =>
    rw [plain_walk_short_payload hlength hdecode hshort]
    exact ⟨rfl, rfl⟩

theorem skip_of_next_none {c : Cursor} (h : c.next = (none, c)) (count : Nat) :
    c.skip count = c := by
  induction count with
  | zero => rfl
  | succ count ih => rw [skip, h, ih]

/-- The items of a walk are what `next` gives call by call, and it gives nothing ever after. -/
theorem next_skip {c : Cursor} (h : c.walk.2.next = (none, c.walk.2)) (i : Nat) :
    (c.skip i).next.1 = c.walk.1[i]? := by
  induction i generalizing c with
  | zero =>
    rw [walk_eq, skip]
    rcases c.next with ⟨_ | item, rest⟩
    · rfl
    · rfl
  | succ i ih =>
    rw [walk_eq] at h
    rw [walk_eq, skip]
    rcases hnext : c.next with ⟨_ | item, rest⟩
    · rw [hnext] at h
      have hend : rest.next = (none, rest) := h
      rw [skip_of_next_none hend, hend]
      rfl
    · rw [hnext] at h
      exact ih h

/-- A cursor found entries in a log, and then the end of the log or an error. -/
structure Tiles (log : Bytes) (recorded : List Recorded) (ending : Option LogError) (last : Cursor) :
    Prop where
  index_eq : ∀ (i : Nat) r, recorded[i]? = some r → r.index = i
  offset_first : ∀ r, recorded[0]? = some r → r.offset = 0
  offset_next : ∀ (i : Nat) r next, recorded[i]? = some r → recorded[i + 1]? = some next →
    next.offset = r.stop
  stands : ∀ r ∈ recorded, r.StandsIn log
  offset_last : last.offset = (recorded.getLast?.map Recorded.stop).getD 0
  ended_iff : ending = none ↔ last.offset = log.length
  few : recorded.length + ending.toList.length ≤ log.length / recordSize + 1

theorem tiles_of_remainder {passages : List Passage} {rest : Bytes} {ending : Option LogError}
    (h : Remainder rest ending) {last : Cursor} (hlast : last.offset = (Passage.join passages).length) :
    Tiles (Passage.join passages ++ rest) (layOut 0 0 (passages.map Passage.logged)) ending last := by
  have hlog : (Passage.join passages ++ rest).length =
      (Passage.join passages).length + rest.length := List.length_append
  constructor
  case index_eq =>
    intro i r hr
    rw [index_of_layOut hr, Nat.zero_add]
  case offset_first =>
    intro r hr
    cases passages with
    | nil => cases hr
    | cons p passages =>
      cases hr
      rfl
  case offset_next =>
    intro i r next hr hnext
    exact offset_of_layOut hr hnext
  case stands =>
    intro r hr
    have hstands : r.StandsIn ([] ++ (Passage.join passages ++ rest)) := standsIn_of_mem_layOut hr
    exact hstands
  case offset_last => rw [stop_of_layOut, Nat.zero_add, hlast]
  case ended_iff =>
    rw [h.eq_none_iff, hlast, hlog]
    omega
  case few =>
    have hrecords : passages.length ≤ (Passage.join passages ++ rest).length / recordSize := by
      rw [Nat.le_div_iff_mul_le (by decide), hlog]
      exact Nat.le_add_right_of_le (Passage.length_le_join passages)
    have hending : ending.toList.length ≤ 1 := by
      cases ending with
      | none => exact Nat.zero_le _
      | some e => exact Nat.le_refl _
    rw [length_layOut, List.length_map]
    omega

/-- A cursor tiles every log with entries: call by call, `next` gives the entries that stand one behind
the other from the beginning, then an error unless the entries reach the end, and then nothing. -/
theorem tiles_every_log (log : Bytes) :
    ∃ recorded ending last,
      (start (.ofBytes log)).walk = (recorded.map .ok ++ (ending.map .error).toList, last) ∧
      (∀ i, ((start (.ofBytes log)).skip i).next.1 =
        (recorded.map .ok ++ (ending.map .error).toList)[i]?) ∧
      last.next = (none, last) ∧ Tiles log recorded ending last := by
  obtain ⟨passages, rest, ending, rfl, hremainder⟩ := Passage.exists_tiling log
  have hwalk := plain_walk_join passages rest 0 0
  rw [plain_walk_remainder hremainder] at hwalk
  obtain ⟨hoffset, hnext⟩ := plain_walk_end hremainder (0 + passages.length)
    (0 + (Passage.join passages).length)
  have hitems : (start (.ofBytes (Passage.join passages ++ rest))).walk =
      (((layOut 0 0 (passages.map Passage.logged)).map .ok ++ (ending.map .error).toList),
        (plain rest (0 + passages.length) (0 + (Passage.join passages).length)).walk.2) := hwalk
  refine ⟨_, ending, _, hitems, ?_, hnext, tiles_of_remainder hremainder ?_⟩
  · intro i
    rw [next_skip (by rw [hitems]; exact hnext), hitems]
  · rw [hoffset, Nat.zero_add]

end Cursor

end Retrace.Log
