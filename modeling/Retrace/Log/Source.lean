import Retrace.Log.Error
import Retrace.Bytes

namespace Retrace.Log

/-- How a source serves its reads. -/
structure ReadPolicy where
  /-- The most bytes one read returns; at least one. -/
  chunk : Option Nat := none
  /-- Every other read is interrupted, the first among them. -/
  interrupts : Bool := false
  /-- The first offset that cannot be read, and what a read there reports. -/
  failure : Option (Nat × IoError) := none

/-- Where log bytes come from. A source may serve a read in part, may interrupt every other read, and may fail
from an offset on. -/
structure Source where
  /-- The bytes not yet read. -/
  rest : Bytes
  /-- The number of bytes read. -/
  offset : Nat := 0
  policy : ReadPolicy := {}
  /-- Whether the last read was interrupted. -/
  interrupted : Bool := false

inductive ReadResult
  | bytes (taken : Bytes)
  | interrupted
  | failed (reason : IoError)

namespace Source

def ofBytes (bytes : Bytes) : Source := { rest := bytes }

/-- The failure of a read at the offset where the source stands. -/
def failure? (s : Source) : Option IoError :=
  match s.policy.failure with
  | some (limit, reason) => if limit ≤ s.offset then some reason else none
  | none => none

/-- How many bytes one read that wants some returns where the data does not end. -/
def share (s : Source) (want : Nat) : Nat :=
  let want := match s.policy.chunk with
    | some chunk => min want (max chunk 1)
    | none => want
  match s.policy.failure with
  | some (limit, _) => min want (limit - s.offset)
  | none => want

/-- Whether the next read is interrupted. -/
def willInterrupt (s : Source) : Bool := s.policy.interrupts && !s.interrupted

/-- One read of at most so many bytes. None at all means the end of the data. -/
def read (s : Source) (want : Nat) : ReadResult × Source :=
  if s.willInterrupt then (.interrupted, { s with interrupted := true })
  else
    match s.failure? with
    | some reason => (.failed reason, { s with interrupted := false })
    | none =>
      let taken := s.rest.take (s.share want)
      (.bytes taken,
        { s with rest := s.rest.drop taken.length, offset := s.offset + taken.length, interrupted := false })

theorem read_interrupted {s next : Source} {want : Nat} (h : s.read want = (.interrupted, next)) :
    s.willInterrupt = true ∧ next = { s with interrupted := true } := by
  rw [read] at h
  split at h
  · rename_i hw
    cases h
    exact ⟨hw, rfl⟩
  · split at h <;> cases h

theorem read_failed {s next : Source} {want : Nat} {reason : IoError}
    (h : s.read want = (.failed reason, next)) : next = { s with interrupted := false } := by
  rw [read] at h
  split at h
  · cases h
  · split at h <;> cases h
    rfl

theorem read_bytes {s next : Source} {want : Nat} {taken : Bytes}
    (h : s.read want = (.bytes taken, next)) :
    taken ++ next.rest = s.rest ∧ next.offset = s.offset + taken.length := by
  rw [read] at h
  split at h
  · cases h
  · split at h <;> cases h
    refine ⟨?_, rfl⟩
    simp only [List.length_take]
    rw [List.take_eq_take_min, List.take_append_drop]

/-- The bytes that were there, and the failure that ended the reading if one did. -/
structure Filled where
  bytes : Bytes
  failure : Option IoError := none

/-- Reads until all bytes are there, the data ends, or a read fails. -/
def fill (s : Source) (want : Nat) : Filled × Source :=
  if want = 0 then ({ bytes := [] }, s)
  else
    match _h : s.read want with
    | (.interrupted, next) => next.fill want
    | (.failed reason, next) => ({ bytes := [], failure := reason }, next)
    | (.bytes [], next) => ({ bytes := [] }, next)
    | (.bytes (b :: taken), next) =>
      let (filled, last) := next.fill (want - (taken.length + 1))
      ({ filled with bytes := b :: taken ++ filled.bytes }, last)
termination_by 2 * want + s.willInterrupt.toNat
decreasing_by
  · obtain ⟨hw, rfl⟩ := read_interrupted ‹_›
    simp_all [willInterrupt]
  · have := Bool.toNat_le next.willInterrupt
    omega

/-- Nothing is lost and nothing is read twice. -/
theorem fill_append_rest (s : Source) (want : Nat) :
    (s.fill want).1.bytes ++ (s.fill want).2.rest = s.rest ∧
      (s.fill want).2.offset = s.offset + (s.fill want).1.bytes.length := by
  fun_induction fill s want with
  | case1 => simp
  | case2 s want _ next h ih =>
    obtain ⟨_, rfl⟩ := read_interrupted h
    simpa using ih
  | case3 s want _ reason next h =>
    rw [read_failed h]
    simp
  | case4 s want _ next h => simpa using read_bytes h
  | case5 s want _ b taken next h filled last heq ih =>
    obtain ⟨hrest, hoffset⟩ := read_bytes h
    simp only [heq] at ih
    refine ⟨by rw [← hrest, List.append_assoc, ih.1], ?_⟩
    simp only [List.length_append, List.length_cons] at hoffset ih ⊢
    omega

theorem length_fill (s : Source) (want : Nat) :
    (s.fill want).1.bytes.length + (s.fill want).2.rest.length = s.rest.length := by
  rw [← List.length_append, (s.fill_append_rest want).1]

end Source

end Retrace.Log
