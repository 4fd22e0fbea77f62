import Retrace.Log.Record
import Retrace.Log.Source

namespace Retrace.Log

namespace Source

/-- Reads a record; none at the end of the data. -/
def readRecord (s : Source) : Except LogError (Option Bytes) × Source :=
  match s.fill recordSize with
  | ({ failure := some reason, .. }, next) => (.error (.io reason), next)
  | ({ bytes, failure := none }, next) =>
    if bytes.length = recordSize then (.ok (some bytes), next)
    else if bytes.isEmpty then (.ok none, next)
    else (.error (.truncated recordSize bytes.length), next)

/-- Reads into a buffer until it is full. What was there before a failure stays in its front. -/
def readPayload (s : Source) (buffer : Bytes) : Except LogError Unit × Bytes × Source :=
  let (filled, next) := s.fill buffer.length
  let buffer := Bytes.overwrite filled.bytes buffer
  match filled.failure with
  | some reason => (.error (.io reason), buffer, next)
  | none =>
    if filled.bytes.length < buffer.length then
      (.error (.truncated buffer.length filled.bytes.length), buffer, next)
    else (.ok (), buffer, next)

/-- Takes the payload of an entry, which may declare any length. -/
def takePayload (s : Source) (length : Nat) : Except LogError Bytes × Source :=
  match s.fill length with
  | ({ failure := some reason, .. }, next) => (.error (.io reason), next)
  | ({ bytes, failure := none }, next) =>
    if bytes.length < length then (.error (.truncated length bytes.length), next)
    else (.ok bytes, next)

theorem rest_lt_of_readRecord {s next : Source} {record : Bytes}
    (h : s.readRecord = (.ok (some record), next)) : next.rest.length < s.rest.length := by
  have hlen := s.length_fill recordSize
  rw [readRecord] at h
  split at h
  · cases h
  · rename_i bytes last heq
    rw [heq] at hlen
    split at h
    · rename_i hsize
      cases h
      simp only [hsize, recordSize] at hlen
      omega
    · split at h <;> cases h

theorem rest_le_of_takePayload {s next : Source} {length : Nat} {result : Except LogError Bytes}
    (h : s.takePayload length = (result, next)) : next.rest.length ≤ s.rest.length := by
  have hlen := s.length_fill length
  rw [takePayload] at h
  split at h
  · rename_i heq
    rw [heq] at hlen
    cases h
    simp only at hlen
    omega
  · rename_i heq
    rw [heq] at hlen
    split at h <;> cases h <;> simp only at hlen <;> omega

end Source

/-- An entry where it stands in a log. -/
structure Recorded where
  index : Nat
  offset : Nat
  entry : Entry
  payload : Bytes
  deriving DecidableEq

structure Cursor where
  source : Source
  index : Nat := 0
  /-- Where the next record begins. -/
  offset : Nat := 0
  /-- Whether the walk ended in an error. -/
  failed : Bool := false

namespace Cursor

def start (source : Source) : Cursor := { source }

/-- Reads the entry at the cursor; none at the end of the log. -/
def readNext (c : Cursor) : Except LogError (Option Recorded) × Cursor :=
  match c.source.readRecord with
  | (.error e, source) => (.error e, { c with source })
  | (.ok none, source) => (.ok none, { c with source })
  | (.ok (some record), source) =>
    match Entry.decode record with
    | .error e => (.error e, { c with source })
    | .ok entry =>
      match source.takePayload entry.payloadLength with
      | (.error e, source) => (.error e, { c with source })
      | (.ok payload, source) =>
        (.ok (some ⟨c.index, c.offset, entry, payload⟩), {
          c with
          source
          index := c.index + 1
          offset := c.offset + (recordSize + payload.length) })

/-- The next item of the walk. After an error, where the position is lost, there is none. -/
def next (c : Cursor) : Option (Except LogError Recorded) × Cursor :=
  if c.failed then (none, c)
  else
    match c.readNext with
    | (.ok none, c) => (none, c)
    | (.ok (some recorded), c) => (some (.ok recorded), c)
    | (.error e, c) => (some (.error e), { c with failed := true })

theorem rest_lt_of_readNext {c last : Cursor} {recorded : Recorded}
    (h : c.readNext = (.ok (some recorded), last)) :
    last.source.rest.length < c.source.rest.length := by
  rw [readNext] at h
  split at h
  · cases h
  · cases h
  · rename_i record source hrecord
    have hlt := Source.rest_lt_of_readRecord hrecord
    split at h
    · cases h
    · split at h
      · cases h
      · rename_i hpayload
        have hle := Source.rest_le_of_takePayload hpayload
        cases h
        exact Nat.lt_of_le_of_lt hle hlt

/-- All items up to the end of the log or the first error, and the cursor afterwards. -/
def walk (c : Cursor) : List (Except LogError Recorded) × Cursor :=
  if c.failed then ([], c)
  else
    match _h : c.readNext with
    | (.ok none, last) => ([], last)
    | (.error e, last) => ([.error e], { last with failed := true })
    | (.ok (some recorded), rest) =>
      let (items, last) := rest.walk
      (.ok recorded :: items, last)
termination_by c.source.rest.length
decreasing_by exact rest_lt_of_readNext ‹_›

/-- A walk is the next item and the walk after it. -/
theorem walk_eq (c : Cursor) :
    c.walk =
      match c.next with
      | (none, last) => ([], last)
      | (some item, rest) => (item :: rest.walk.1, rest.walk.2) := by
  rw [walk, next]
  by_cases hfailed : c.failed
  · simp [hfailed]
  · simp only [hfailed]
    match hread : c.readNext with
    | (.ok none, last) => simp
    | (.ok (some recorded), rest) => simp
    | (.error e, last) => simp [walk]

/-- The items of a log. -/
def items (source : Source) : List (Except LogError Recorded) := (start source).walk.1

end Cursor

end Retrace.Log
