import Retrace.Log.Writer
import Retrace.Proofs.Log.Passage

namespace Retrace.Log

theorem Sink.held_writeAll {s next : Sink} {bytes : Bytes}
    (h : s.writeAll bytes = (.ok (), next)) : next.held = s.held ++ bytes := by
  fun_induction writeAll s bytes with
  | case1 s bytes hempty =>
    cases h
    rw [List.isEmpty_iff.mp hempty, List.append_nil]
  | case2 => cases h
  | case3 s bytes _ taken next hwrite ih =>
    have hheld := s.held_write bytes
    rw [hwrite] at hheld
    rw [ih h, hheld, List.append_assoc, List.take_append_drop]

theorem Sink.writeAll_of_unbounded {s : Sink} (h : s.room = none) (bytes : Bytes) :
    ∃ next, s.writeAll bytes = (.ok (), next) ∧ next.room = none := by
  fun_induction writeAll s bytes with
  | case1 s => exact ⟨s, rfl, h⟩
  | case2 s bytes hne next hwrite =>
    have hpos := List.length_pos_iff.mpr (fun hnil => hne (List.isEmpty_iff.mpr hnil))
    have hshare : s.share bytes.length = 0 := congrArg Prod.fst hwrite
    rw [share, h] at hshare
    cases hchunk : s.chunk <;> simp only [hchunk] at hshare <;> omega
  | case3 s bytes _ taken next hwrite ih =>
    have hroom : next.room = s.room.map (· - s.share bytes.length) :=
      congrArg (fun answer => answer.2.room) hwrite.symm
    exact ih (by rw [hroom, h, Option.map_none])

section sameRoom

variable {s s' : Sink} {bytes bytes' : Bytes}

theorem Sink.isEmpty_congr (hlen : bytes.length = bytes'.length) : bytes.isEmpty = bytes'.isEmpty := by
  rw [Bool.eq_iff_iff, List.isEmpty_iff_length_eq_zero, List.isEmpty_iff_length_eq_zero, hlen]

theorem Sink.write_congr (hlen : bytes.length = bytes'.length) (hroom : s.room = s'.room)
    (hchunk : s.chunk = s'.chunk) :
    (s.write bytes).1 = (s'.write bytes').1 ∧ (s.write bytes).2.room = (s'.write bytes').2.room ∧
      (s.write bytes).2.chunk = (s'.write bytes').2.chunk := by
  have hshare : s.share bytes.length = s'.share bytes'.length := by
    rw [share, share, hlen, hroom, hchunk]
  refine ⟨hshare, ?_, hchunk⟩
  rw [write, write, hshare, hroom]

/-- How a write ends depends on how many bytes are brought, and not on which. -/
theorem Sink.writeAll_congr (hlen : bytes.length = bytes'.length) (hroom : s.room = s'.room)
    (hchunk : s.chunk = s'.chunk) :
    (s.writeAll bytes).1 = (s'.writeAll bytes').1 ∧
      (s.writeAll bytes).2.room = (s'.writeAll bytes').2.room ∧
      (s.writeAll bytes).2.chunk = (s'.writeAll bytes').2.chunk := by
  fun_induction writeAll s bytes generalizing s' bytes' with
  | case1 s bytes hempty =>
    have hempty : bytes' = [] := by
      rw [List.isEmpty_iff.mp hempty] at hlen
      exact List.length_eq_zero_iff.mp hlen.symm
    rw [writeAll, hempty, if_pos List.isEmpty_nil]
    exact ⟨rfl, hroom, hchunk⟩
  | case2 s bytes hsome next hwrite =>
    obtain ⟨htaken, hroom', hchunk'⟩ := write_congr hlen hroom hchunk
    rw [hwrite] at htaken hroom' hchunk'
    rw [writeAll, if_neg (isEmpty_congr hlen ▸ hsome)]
    split <;> rename_i hwrite' <;> rw [hwrite'] at htaken hroom' hchunk'
    · exact ⟨rfl, hroom', hchunk'⟩
    · cases htaken
  | case3 s bytes hsome taken next hwrite ih =>
    obtain ⟨htaken, hroom', hchunk'⟩ := write_congr hlen hroom hchunk
    rw [hwrite] at htaken hroom' hchunk'
    rw [writeAll.eq_def s' bytes', if_neg (isEmpty_congr hlen ▸ hsome)]
    split <;> rename_i hwrite' <;> rw [hwrite'] at htaken hroom' hchunk'
    · cases htaken
    · cases htaken
      refine ih ?_ hroom' hchunk'
      rw [List.length_drop, List.length_drop, hlen]

end sameRoom

namespace Writer

theorem append_ok {w next : Writer} {entry : Entry} {payload : Bytes}
    (h : w.append entry payload = (.ok (), next)) :
    ∃ hlen : payload.length = entry.payloadLength,
      next.sink.held = w.sink.held ++ (Passage.ofEntry entry payload hlen).bytes ∧
        next.appended = w.appended + 1 := by
  rw [append] at h
  split at h
  · cases h
  · rename_i hlen
    split at h
    · cases h
    · rename_i sink hrecord
      split at h
      · cases h
      · rename_i sink' hpayload
        cases h
        refine ⟨(Decidable.not_not.mp hlen).symm, ?_, rfl⟩
        change sink'.held = w.sink.held ++ (entry.encode ++ payload)
        rw [Sink.held_writeAll hpayload, Sink.held_writeAll hrecord, List.append_assoc]

theorem append_of_unbounded {w : Writer} (h : w.sink.room = none) {entry : Entry} {payload : Bytes}
    (hlen : entry.payloadLength = payload.length) :
    ∃ next, w.append entry payload = (.ok (), next) ∧ next.sink.room = none := by
  obtain ⟨sink, hrecord, hroom⟩ := Sink.writeAll_of_unbounded h entry.encode
  obtain ⟨sink', hpayload, hroom'⟩ := Sink.writeAll_of_unbounded hroom payload
  rw [append, if_neg (fun hne => hne hlen), hrecord]
  dsimp only
  rw [hpayload]
  exact ⟨_, rfl, hroom'⟩

theorem append_congr (w : Writer) {entry entry' : Entry} (h : entry.payloadLength = 0)
    (h' : entry'.payloadLength = 0) : (w.append entry []).1 = (w.append entry' []).1 := by
  have hlen : entry.encode.length = entry'.encode.length := by
    rw [entry.length_encode, entry'.length_encode]
  obtain ⟨hresult, _, _⟩ :=
    Sink.writeAll_congr hlen (rfl : w.sink.room = w.sink.room) rfl
  have hnothing (sink : Sink) : sink.writeAll [] = (.ok (), sink) := by
    rw [Sink.writeAll, if_pos List.isEmpty_nil]
  rw [append, append, if_neg (fun hne => hne h), if_neg (fun hne => hne h')]
  rcases hwrite : w.sink.writeAll entry.encode with ⟨result, sink⟩
  rcases hwrite' : w.sink.writeAll entry'.encode with ⟨result', sink'⟩
  rw [hwrite, hwrite'] at hresult
  cases hresult
  cases result with
  | error reason => rfl
  | ok =>
    dsimp only
    rw [hnothing, hnothing]

theorem barrier_same (w : Writer) :
    w.barrier.2.sink.held = w.sink.held ∧ w.barrier.2.appended = w.appended ∧
      w.barrier.2.bytesWritten = w.bytesWritten ∧ w.barrier.2.sink.room = w.sink.room := by
  rw [barrier]
  split
  · exact ⟨rfl, rfl, rfl, rfl⟩
  · rw [Sink.sync]
    cases w.sink.syncFailure with
    | none => exact ⟨rfl, rfl, rfl, rfl⟩
    | some reason => exact ⟨rfl, rfl, rfl, rfl⟩

/-- Appends entries one after the other, up to the first that fails. -/
def appendAll (w : Writer) : List (Entry × Bytes) → Except LogError Unit × Writer
  | [] => (.ok (), w)
  | (entry, payload) :: rest =>
    match w.append entry payload with
    | (.ok (), w) => w.appendAll rest
    | (.error e, w) => (.error e, w)

/-- Appends that succeed leave the passages of their entries in the sink, in order. -/
theorem appendAll_ok {w last : Writer} {records : List (Entry × Bytes)}
    (h : w.appendAll records = (.ok (), last)) :
    ∃ passages : List Passage, passages.map Passage.logged = records ∧
      last.sink.held = w.sink.held ++ Passage.join passages := by
  induction records generalizing w with
  | nil =>
    cases h
    exact ⟨[], rfl, (List.append_nil _).symm⟩
  | cons record records ih =>
    obtain ⟨entry, payload⟩ := record
    rw [appendAll] at h
    split at h
    · rename_i next happend
      obtain ⟨hlen, hheld, _⟩ := append_ok happend
      obtain ⟨passages, hlogged, hlast⟩ := ih h
      refine ⟨.ofEntry entry payload hlen :: passages, ?_, ?_⟩
      · rw [List.map_cons, hlogged]
        rfl
      · rw [hlast, hheld, Passage.join_cons, List.append_assoc]
    · cases h

end Writer

end Retrace.Log
