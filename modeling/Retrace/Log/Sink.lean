import Retrace.Log.Error
import Retrace.Bytes

namespace Retrace.Log

structure Sink where
  /-- What each write left, the last one in front. -/
  writes : List Bytes := []
  /-- How many more bytes it takes; without a bound if none. -/
  room : Option Nat := none
  /-- The most bytes one write takes; at least one. -/
  chunk : Option Nat := none
  flushFailure : Option IoError := none
  syncFailure : Option IoError := none
  /-- How often everything held was made durable. -/
  syncs : Nat := 0

namespace Sink

/-- All bytes taken so far. -/
def held (s : Sink) : Bytes := s.writes.reverse.flatten

/-- How many of some bytes one write takes. -/
def share (s : Sink) (want : Nat) : Nat :=
  let want := match s.chunk with
    | some chunk => min want (max chunk 1)
    | none => want
  match s.room with
  | some room => min want room
  | none => want

/-- One write: the number of bytes taken, from the front. -/
def write (s : Sink) (bytes : Bytes) : Nat × Sink :=
  let taken := s.share bytes.length
  (taken, { s with writes := bytes.take taken :: s.writes, room := s.room.map (· - taken) })

theorem held_write (s : Sink) (bytes : Bytes) :
    (s.write bytes).2.held = s.held ++ bytes.take (s.write bytes).1 := by
  simp [write, held]

/-- Writes until all bytes are taken or a write takes none. -/
def writeAll (s : Sink) (bytes : Bytes) : Except IoError Unit × Sink :=
  if bytes.isEmpty then (.ok (), s)
  else
    match s.write bytes with
    | (0, next) => (.error .writeZero, next)
    | (taken + 1, next) => next.writeAll (bytes.drop (taken + 1))
termination_by bytes.length
decreasing_by
  have : bytes ≠ [] := by simp_all
  have := List.length_pos_iff.mpr this
  simp only [List.length_drop]
  omega

def flush (s : Sink) : Except IoError Unit :=
  match s.flushFailure with
  | some reason => .error reason
  | none => .ok ()

/-- Makes everything held durable. -/
def sync (s : Sink) : Except IoError Unit × Sink :=
  match s.syncFailure with
  | some reason => (.error reason, s)
  | none => (.ok (), { s with syncs := s.syncs + 1 })

end Sink

end Retrace.Log
