import Retrace.Proofs.Log.Standing

namespace Retrace.Log

theorem Source.length_of_takePayload {s next : Source} {length : Nat} {payload : Bytes}
    (h : s.takePayload length = (.ok payload, next)) : payload.length = length := by
  have hle : (s.fill length).1.bytes.length ≤ length := by
    rw [fill_eq_gather]
    calc (s.gather length).bytes.length ≤ s.inFull.share length := List.length_take_le _ _
      _ ≤ length := inFull_share_le length
  rw [takePayload] at h
  split at h
  · cases h
  · rename_i hfill
    rw [hfill] at hle
    split at h
    · cases h
    · rename_i hnot
      cases h
      exact Nat.le_antisymm hle (Nat.le_of_not_lt hnot)

namespace Cursor

variable {c last : Cursor}

theorem readNext_found {recorded : Recorded} (h : c.readNext = (.ok (some recorded), last)) :
    last.offset = recorded.stop ∧ recorded.payload.length = recorded.entry.payloadLength := by
  rw [readNext] at h
  split at h
  · cases h
  · cases h
  · split at h
    · cases h
    · split at h
      · cases h
      · rename_i htake
        cases h
        exact ⟨rfl, Source.length_of_takePayload htake⟩

theorem readNext_offset {result : Except LogError (Option Recorded)}
    (h : c.readNext = (result, last)) (hnone : ∀ recorded, result ≠ .ok (some recorded)) :
    last.offset = c.offset := by
  rw [readNext] at h
  split at h
  · cases h
    rfl
  · cases h
    rfl
  · split at h
    · cases h
      rfl
    · split at h
      · cases h
        rfl
      · cases h
        exact absurd rfl (hnone _)

/-- A walk over any source finds entries one behind the other, each with as many bytes as it declares,
and then an error unless the log ended. -/
theorem walk_found (c : Cursor) :
    ∃ (found : List Recorded) (ending : Option LogError),
      c.walk.1 = found.map .ok ++ (ending.map .error).toList ∧
      c.walk.2.offset = (found.getLast?.map Recorded.stop).getD c.offset ∧
      ∀ r ∈ found, r.payload.length = r.entry.payloadLength := by
  fun_induction walk c with
  | case1 c hfailed => exact ⟨[], none, rfl, rfl, nofun⟩
  | case2 c hfailed last hread =>
    have hoffset := readNext_offset hread nofun
    exact ⟨[], none, rfl, hoffset, nofun⟩
  | case3 c hfailed e last hread =>
    have hoffset := readNext_offset hread nofun
    exact ⟨[], some e, rfl, hoffset, nofun⟩
  | case4 c hfailed recorded rest hread items last heq ih =>
    obtain ⟨hstop, hpayload⟩ := readNext_found hread
    obtain ⟨found, ending, hitems, hoffset, hfound⟩ := ih
    rw [heq] at hitems hoffset
    dsimp only at hitems hoffset
    refine ⟨recorded :: found, ending, ?_, ?_, ?_⟩
    · rw [hitems]
      rfl
    · rw [hoffset, hstop, stop_getLast?_cons]
    · intro r hmem
      rcases List.mem_cons.mp hmem with rfl | hmem
      · exact hpayload
      · exact hfound r hmem

end Cursor

end Retrace.Log
