import Retrace.Log.Cursor
import Retrace.Proofs.Log.Codec
import Retrace.Proofs.Log.Filling

namespace Retrace.Log

namespace Source

/-- A source that serves plain bytes in full, after so many others. -/
def plain (rest : Bytes) (offset : Nat) : Source := { rest, offset }

theorem plain_fill (rest : Bytes) (offset want : Nat) :
    (plain rest offset).fill want =
      ({ bytes := rest.take want }, plain (rest.drop want) (offset + (rest.take want).length)) := by
  have hfilled : ((plain rest offset).fill want).1 = { bytes := rest.take want } := by
    rw [fill_eq_gather]
    simp [gather, inFull, share, past, failure?, plain]
  have hlast : ((plain rest offset).fill want).2 =
      (plain rest offset).past (rest.take want).length := by
    rw [← inFull_fill_of_full rfl, inFull_fill, hfilled]
    rfl
  have hdrop : rest.drop (rest.take want).length = rest.drop want := by
    rw [List.length_take, List.drop_eq_drop_iff]
    omega
  apply Prod.ext
  · exact hfilled
  · rw [hlast, past, plain, hdrop]
    rfl

theorem plain_readRecord_nil (offset : Nat) :
    (plain [] offset).readRecord = (.ok none, plain [] offset) := by
  simp [readRecord, plain_fill, recordSize]

theorem plain_readRecord_append {record : Bytes} (h : record.length = recordSize) (tail : Bytes)
    (offset : Nat) :
    (plain (record ++ tail) offset).readRecord =
      (.ok (some record), plain tail (offset + recordSize)) := by
  simp [readRecord, plain_fill, List.take_left' h, List.drop_left' h, h]

theorem plain_readRecord_short {rest : Bytes} (hpos : 0 < rest.length)
    (hlt : rest.length < recordSize) (offset : Nat) :
    (plain rest offset).readRecord =
      (.error (.truncated recordSize rest.length), plain [] (offset + rest.length)) := by
  have hne : rest ≠ [] := List.length_pos_iff.mp hpos
  have hle := Nat.le_of_lt hlt
  simp [readRecord, plain_fill, List.take_of_length_le hle, List.drop_eq_nil_of_le hle, hne,
    Nat.ne_of_lt hlt]

theorem plain_takePayload_append (payload tail : Bytes) (offset : Nat) :
    (plain (payload ++ tail) offset).takePayload payload.length =
      (.ok payload, plain tail (offset + payload.length)) := by
  simp [takePayload, plain_fill]

theorem plain_takePayload_short {rest : Bytes} {length : Nat} (h : rest.length < length)
    (offset : Nat) :
    (plain rest offset).takePayload length =
      (.error (.truncated length rest.length), plain [] (offset + rest.length)) := by
  have hle := Nat.le_of_lt h
  simp [takePayload, plain_fill, List.take_of_length_le hle, List.drop_eq_nil_of_le hle, h]

end Source

/-- Entries with their payloads where they stand in a log, from a place on. -/
def layOut (index offset : Nat) : List (Entry × Bytes) → List Recorded
  | [] => []
  | (entry, payload) :: rest =>
    ⟨index, offset, entry, payload⟩ ::
      layOut (index + 1) (offset + (recordSize + payload.length)) rest

theorem map_layOut (index offset : Nat) (records : List (Entry × Bytes)) :
    (layOut index offset records).map (fun r => (r.entry, r.payload)) = records := by
  induction records generalizing index offset with
  | nil => rfl
  | cons r records ih => rw [layOut, List.map_cons, ih]

@[simp] theorem length_layOut (index offset : Nat) (records : List (Entry × Bytes)) :
    (layOut index offset records).length = records.length := by
  rw [← List.length_map, map_layOut]

/-- A stretch of a log that holds one entry. -/
structure Passage where
  record : Bytes
  entry : Entry
  payload : Bytes
  length_record : record.length = recordSize
  decode_record : Entry.decode record = .ok entry
  length_payload : payload.length = entry.payloadLength

namespace Passage

def ofEntry (entry : Entry) (payload : Bytes) (h : payload.length = entry.payloadLength) :
    Passage where
  record := entry.encode
  entry
  payload
  length_record := entry.length_encode
  decode_record := entry.decode_encode
  length_payload := h

def bytes (p : Passage) : Bytes := p.record ++ p.payload

def size (p : Passage) : Nat := recordSize + p.payload.length

@[simp] theorem length_bytes (p : Passage) : p.bytes.length = p.size := by
  rw [bytes, List.length_append, p.length_record, size]

theorem bytes_append (p : Passage) (tail : Bytes) :
    p.bytes ++ tail = p.record ++ (p.payload ++ tail) := List.append_assoc _ _ _

def logged (p : Passage) : Entry × Bytes := (p.entry, p.payload)

theorem logged_of_entry {p : Passage} {entry : Entry} (h : p.entry = entry)
    (hnone : entry.payloadLength = 0) : p.logged = (entry, []) := by
  have hlen := p.length_payload
  rw [h, hnone] at hlen
  exact Prod.ext h (List.length_eq_zero_iff.mp hlen)

theorem map_entry_layOut (index offset : Nat) (passages : List Passage) :
    (layOut index offset (passages.map logged)).map (·.entry) = passages.map (·.entry) := by
  have hentries := congrArg (List.map Prod.fst) (map_layOut index offset (passages.map logged))
  rwa [List.map_map, List.map_map] at hentries

/-- No passage is in front of another one, so a log can be read in one way only. -/
theorem append_inj {p q : Passage} {tail tail' : Bytes} (h : p.bytes ++ tail = q.bytes ++ tail') :
    p.logged = q.logged ∧ tail = tail' := by
  rw [bytes_append, bytes_append] at h
  obtain ⟨hrecord, hrest⟩ := List.append_inj h (p.length_record.trans q.length_record.symm)
  have hentry : p.entry = q.entry := by
    have hdecode := p.decode_record
    rw [hrecord, q.decode_record] at hdecode
    exact (Except.ok.inj hdecode).symm
  have hlength : p.payload.length = q.payload.length := by
    rw [p.length_payload, q.length_payload, hentry]
  obtain ⟨hpayload, htail⟩ := List.append_inj hrest hlength
  exact ⟨Prod.ext hentry hpayload, htail⟩

theorem append_ne_nil (p : Passage) (tail : Bytes) : p.bytes ++ tail ≠ [] := by
  intro h
  have hlength := congrArg List.length h
  rw [List.length_append, p.length_bytes, size] at hlength
  exact absurd hlength (by simp [recordSize])

def join (passages : List Passage) : Bytes := passages.flatMap bytes

@[simp] theorem join_nil : join [] = [] := rfl

@[simp] theorem join_cons (p : Passage) (rest : List Passage) :
    join (p :: rest) = p.bytes ++ join rest := rfl

@[simp] theorem join_singleton (p : Passage) : join [p] = p.bytes := List.append_nil _

@[simp] theorem join_append (xs ys : List Passage) : join (xs ++ ys) = join xs ++ join ys :=
  List.flatMap_append

end Passage

namespace Cursor

/-- A cursor in the middle of plain bytes. -/
def plain (rest : Bytes) (index offset : Nat) : Cursor :=
  { source := .plain rest offset, index, offset }

/-- A cursor that could not read on from a place, with so many bytes read behind it. -/
def stuck (index offset read : Nat) : Cursor :=
  { source := .plain [] (offset + read), index, offset, failed := true }

theorem items_ofBytes (bytes : Bytes) : items (.ofBytes bytes) = (plain bytes 0 0).walk.1 := rfl

theorem plain_next_nil (index offset : Nat) :
    (plain [] index offset).next = (none, plain [] index offset) := by
  simp [next, readNext, plain, Source.plain_readRecord_nil]

theorem plain_walk_nil (index offset : Nat) :
    (plain [] index offset).walk = ([], plain [] index offset) := by
  rw [walk_eq, plain_next_nil]

theorem plain_readNext_passage (p : Passage) (tail : Bytes) (index offset : Nat) :
    (plain (p.bytes ++ tail) index offset).readNext =
      (.ok (some ⟨index, offset, p.entry, p.payload⟩),
        plain tail (index + 1) (offset + p.size)) := by
  have hpayload := Source.plain_takePayload_append p.payload tail (offset + recordSize)
  rw [p.length_payload] at hpayload
  simp only [readNext, plain, p.bytes_append, Source.plain_readRecord_append p.length_record,
    p.decode_record, hpayload, Passage.size, p.length_payload, Nat.add_assoc]

theorem plain_walk_passage (p : Passage) (tail : Bytes) (index offset : Nat) :
    (plain (p.bytes ++ tail) index offset).walk =
      (.ok ⟨index, offset, p.entry, p.payload⟩ :: (plain tail (index + 1) (offset + p.size)).walk.1,
        (plain tail (index + 1) (offset + p.size)).walk.2) := by
  rw [walk_eq, next, plain_readNext_passage]
  simp [plain]

theorem plain_walk_short_record {rest : Bytes} (hpos : 0 < rest.length)
    (hlt : rest.length < recordSize) (index offset : Nat) :
    (plain rest index offset).walk =
      ([.error (.truncated recordSize rest.length)], stuck index offset rest.length) := by
  have hread := Source.plain_readRecord_short hpos hlt offset
  rw [walk_eq]
  simp [next, readNext, plain, hread, walk, stuck]

theorem plain_walk_short_payload {record : Bytes} {entry : Entry} {payload : Bytes}
    (hsize : record.length = recordSize) (hdecode : Entry.decode record = .ok entry)
    (hlt : payload.length < entry.payloadLength) (index offset : Nat) :
    (plain (record ++ payload) index offset).walk =
      ([.error (.truncated entry.payloadLength payload.length)],
        stuck index offset (recordSize + payload.length)) := by
  have hrecord := Source.plain_readRecord_append hsize payload offset
  have hpayload := Source.plain_takePayload_short hlt (offset + recordSize)
  rw [walk_eq]
  simp [next, readNext, plain, hrecord, hdecode, hpayload, walk, stuck, Nat.add_assoc]

/-- A walk shows the passages in front of it, and goes on behind them. -/
theorem plain_walk_join (passages : List Passage) (tail : Bytes) (index offset : Nat) :
    (plain (Passage.join passages ++ tail) index offset).walk =
      ((layOut index offset (passages.map Passage.logged)).map .ok ++
        (plain tail (index + passages.length) (offset + (Passage.join passages).length)).walk.1,
      (plain tail (index + passages.length) (offset + (Passage.join passages).length)).walk.2) := by
  induction passages generalizing index offset with
  | nil => simp [layOut]
  | cons p passages ih =>
    rw [Passage.join_cons, List.append_assoc, plain_walk_passage, ih]
    simp only [layOut, Passage.logged, List.map_cons, List.cons_append, List.length_cons,
      List.length_append, Passage.length_bytes, Passage.size]
    have hindex : index + 1 + passages.length = index + (passages.length + 1) := by omega
    rw [hindex, Nat.add_assoc offset]

/-- A cursor on a log reads passage by passage, and what stands behind them decides how its walk ends. -/
theorem items_join (passages : List Passage) :
    items (.ofBytes (Passage.join passages)) =
      (layOut 0 0 (passages.map Passage.logged)).map .ok := by
  have hwalk := plain_walk_join passages [] 0 0
  rw [List.append_nil, plain_walk_nil, List.append_nil] at hwalk
  rw [items_ofBytes, hwalk]

end Cursor

end Retrace.Log
