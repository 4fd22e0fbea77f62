import Retrace.Log.Source

namespace Retrace.Log

namespace Source

/-- The same data with the same failure, each read served in full and none interrupted. -/
def inFull (s : Source) : Source :=
  { rest := s.rest, offset := s.offset, policy := { failure := s.policy.failure } }

def past (s : Source) (count : Nat) : Source :=
  { s with rest := s.rest.drop count, offset := s.offset + count }

/-- What filling gives, told without reads: the bytes wanted as far as they are there and stand in front
of the failure, and the failure if it is where they end. -/
def gather (s : Source) (want : Nat) : Filled :=
  let bytes := s.rest.take (s.inFull.share want)
  { bytes, failure := if bytes.length < want then (s.past bytes.length).failure? else none }

/-- The most one read returns of what is wanted, but for the failure. -/
def piece (s : Source) (want : Nat) : Nat :=
  match s.policy.chunk with
  | some chunk => min want (max chunk 1)
  | none => want

theorem piece_le (s : Source) (want : Nat) : s.piece want ≤ want := by
  rw [piece]
  split
  · exact Nat.min_le_left _ _
  · exact Nat.le_refl _

theorem piece_pos (s : Source) {want : Nat} (h : want ≠ 0) : 0 < s.piece want := by
  rw [piece]
  split <;> omega

theorem share_eq (s : Source) (want : Nat) : s.share want = s.inFull.share (s.piece want) := rfl

section failure

variable {s : Source}

theorem inFull_share_le (want : Nat) : s.inFull.share want ≤ want := by
  rcases hfailure : s.policy.failure with _ | ⟨limit, reason⟩ <;>
    simp only [share, inFull, hfailure] <;> omega

theorem inFull_share_mono {want want' : Nat} (h : want ≤ want') :
    s.inFull.share want ≤ s.inFull.share want' := by
  rcases hfailure : s.policy.failure with _ | ⟨limit, reason⟩ <;>
    simp only [share, inFull, hfailure] <;> omega

theorem inFull_share_of_failure {reason : IoError} (h : s.failure? = some reason) (want : Nat) :
    s.inFull.share want = 0 := by
  rcases hfailure : s.policy.failure with _ | ⟨limit, _⟩
  · simp [failure?, hfailure] at h
  · simp only [failure?, hfailure] at h
    split at h
    · simp only [share, inFull, hfailure]
      omega
    · cases h

theorem inFull_share_pos {want : Nat} (hwant : 0 < want) (h : s.failure? = none) :
    0 < s.inFull.share want := by
  rcases hfailure : s.policy.failure with _ | ⟨limit, _⟩
  · simpa [share, inFull, hfailure] using hwant
  · simp only [failure?, hfailure] at h
    split at h
    · cases h
    · simp only [share, inFull, hfailure]
      omega

theorem inFull_share_past {count want : Nat} (h : count ≤ s.inFull.share want) :
    s.inFull.share want = count + (s.past count).inFull.share (want - count) := by
  rcases hfailure : s.policy.failure with _ | ⟨limit, _⟩ <;>
    simp only [share, inFull, past, hfailure] at h ⊢ <;> omega

end failure

theorem past_zero (s : Source) : s.past 0 = s := rfl

theorem past_past (s : Source) (count count' : Nat) :
    (s.past count).past count' = s.past (count + count') := by
  simp only [past, List.drop_drop, Nat.add_assoc]

theorem gather_inFull (s : Source) (want : Nat) : s.inFull.gather want = s.gather want := rfl

theorem gather_congr {s s' : Source} (h : s.inFull = s'.inFull) (want : Nat) :
    s.gather want = s'.gather want := by
  rw [← gather_inFull s, h, gather_inFull]

section read

variable {s next : Source} {want : Nat}

theorem failure?_of_read {reason : IoError} (h : s.read want = (.failed reason, next)) :
    s.failure? = some reason := by
  rw [read] at h
  split at h
  · cases h
  · split at h
    · rename_i hfailure
      cases h
      exact hfailure
    · cases h

theorem taken_of_read {taken : Bytes} (h : s.read want = (.bytes taken, next)) :
    s.failure? = none ∧ taken = s.rest.take (s.share want) ∧
      next = { s.past taken.length with interrupted := false } := by
  rw [read] at h
  split at h
  · cases h
  · split at h
    · cases h
    · rename_i hfailure
      cases h
      exact ⟨hfailure, rfl, rfl⟩

theorem gather_of_failed {reason : IoError} (hwant : want ≠ 0)
    (h : s.read want = (.failed reason, next)) :
    s.gather want = { bytes := [], failure := some reason } := by
  have hfailure := failure?_of_read h
  have hpos : 0 < want := Nat.pos_of_ne_zero hwant
  simp [gather, inFull_share_of_failure hfailure, past_zero, hfailure, hpos]

theorem gather_of_ended (hwant : want ≠ 0) (h : s.read want = (.bytes [], next)) :
    s.gather want = { bytes := [] } := by
  obtain ⟨hfailure, htaken, _⟩ := taken_of_read h
  have hshare : 0 < s.share want := by
    rw [share_eq]
    exact inFull_share_pos (piece_pos s hwant) hfailure
  have hrest : s.rest = [] := by
    rcases List.take_eq_nil_iff.mp htaken.symm with hzero | hnil
    · omega
    · exact hnil
  simp [gather, hrest, past_zero, hfailure]

/-- The bytes of a read stand in front of what the reads after it give. -/
theorem gather_of_taken {taken : Bytes} (h : s.read want = (.bytes taken, next)) :
    s.gather want =
      { next.gather (want - taken.length) with
        bytes := taken ++ (next.gather (want - taken.length)).bytes } := by
  obtain ⟨_, htaken, rfl⟩ := taken_of_read h
  have hnext : gather { s.past taken.length with interrupted := false } (want - taken.length) =
      (s.past taken.length).gather (want - taken.length) := gather_congr rfl _
  have hshare : taken.length ≤ s.inFull.share want := by
    calc taken.length ≤ s.share want := by
          rw [htaken]
          exact List.length_take_le _ _
      _ = s.inFull.share (s.piece want) := s.share_eq want
      _ ≤ s.inFull.share want := inFull_share_mono (s.piece_le want)
  have hfront : s.rest.take taken.length = taken := by
    rw [htaken, List.length_take, ← List.take_eq_take_min]
  have hbytes : s.rest.take (s.inFull.share want) = taken ++
      (s.past taken.length).rest.take
        ((s.past taken.length).inFull.share (want - taken.length)) := by
    rw [inFull_share_past hshare, List.take_add, hfront]
    rfl
  rw [hnext, gather, gather]
  dsimp only
  generalize (s.past taken.length).rest.take _ = behind at hbytes ⊢
  have hshort : taken.length + behind.length < want ↔ behind.length < want - taken.length := by
    omega
  simp only [hbytes, List.length_append, ← past_past, hshort]

end read

theorem fill_eq_gather (s : Source) (want : Nat) : (s.fill want).1 = s.gather want := by
  fun_induction fill s want with
  | case1 s => simp [gather, Nat.le_zero.mp (inFull_share_le (s := s) 0)]
  | case2 s want _ next h ih =>
    obtain ⟨_, rfl⟩ := read_interrupted h
    exact ih
  | case3 s want hwant reason next h => exact (gather_of_failed hwant h).symm
  | case4 s want hwant next h => exact (gather_of_ended hwant h).symm
  | case5 s want _ b taken next h filled last heq ih =>
    rw [heq] at ih
    have hfilled : filled = next.gather (want - (taken.length + 1)) := ih
    rw [gather_of_taken h, List.length_cons, ← hfilled]

theorem inFull_fill (s : Source) (want : Nat) :
    (s.fill want).2.inFull = s.inFull.past (s.fill want).1.bytes.length := by
  fun_induction fill s want with
  | case1 s => rfl
  | case2 s want _ next h ih =>
    obtain ⟨_, rfl⟩ := read_interrupted h
    exact ih
  | case3 s want _ reason next h =>
    rw [read_failed h]
    rfl
  | case4 s want _ next h =>
    obtain ⟨_, _, rfl⟩ := taken_of_read h
    rfl
  | case5 s want _ b taken next h filled last heq ih =>
    obtain ⟨_, _, rfl⟩ := taken_of_read h
    rw [heq] at ih
    have hlast : last.inFull = (s.inFull.past (b :: taken).length).past filled.bytes.length := ih
    rw [hlast, past_past, List.length_append]

theorem inFull_read (s : Source) (want : Nat) :
    (s.inFull.read want).2.inFull = (s.inFull.read want).2 := by
  have hcalm : s.inFull.willInterrupt = false := rfl
  rw [read, hcalm, if_neg Bool.false_ne_true]
  split
  · rfl
  · rfl

theorem inFull_fill_of_full {s : Source} (h : s.inFull = s) (want : Nat) :
    (s.fill want).2.inFull = (s.fill want).2 := by
  have hread {s next : Source} {want : Nat} {result : ReadResult} (h : s.inFull = s)
      (hread : s.read want = (result, next)) : next.inFull = next := by
    have hfull := s.inFull_read want
    rw [h, hread] at hfull
    exact hfull
  fun_induction fill s want with
  | case1 => exact h
  | case2 s want _ next hnext ih => exact ih (hread h hnext)
  | case3 s want _ reason next hnext => exact hread h hnext
  | case4 s want _ next hnext => exact hread h hnext
  | case5 s want _ b taken next hnext filled last heq ih =>
    rw [heq] at ih
    exact ih (hread h hnext)

theorem fill_inFull (s : Source) (want : Nat) :
    s.inFull.fill want = Prod.map id inFull (s.fill want) := by
  have hfilled : (s.inFull.fill want).1 = (s.fill want).1 := by
    rw [fill_eq_gather, gather_inFull, ← fill_eq_gather]
  apply Prod.ext
  · exact hfilled
  · calc (s.inFull.fill want).2 = (s.inFull.fill want).2.inFull :=
          (inFull_fill_of_full rfl want).symm
      _ = s.inFull.past (s.fill want).1.bytes.length := by
          rw [inFull_fill, hfilled]
          rfl
      _ = (s.fill want).2.inFull := (inFull_fill s want).symm

/-- `fill` with at most so many reads; nothing if they do not suffice. -/
def fillWithin (reads : Nat) (s : Source) (want : Nat) : Option (Filled × Source) :=
  if want = 0 then some ({ bytes := [] }, s)
  else
    match reads with
    | 0 => none
    | reads + 1 =>
      match s.read want with
      | (.interrupted, next) => next.fillWithin reads want
      | (.failed reason, next) => some ({ bytes := [], failure := reason }, next)
      | (.bytes [], next) => some ({ bytes := [] }, next)
      | (.bytes (b :: taken), next) =>
        (next.fillWithin reads (want - (taken.length + 1))).map fun (filled, last) =>
          ({ filled with bytes := b :: taken ++ filled.bytes }, last)

/-- Twice as many reads as bytes suffice: of two reads in a row one is not interrupted, and that one
gives a byte or is the last. -/
theorem fillWithin_eq_fill {s : Source} {want reads : Nat}
    (h : 2 * want + s.willInterrupt.toNat ≤ reads + 1) :
    fillWithin reads s want = some (s.fill want) := by
  have hpos {s : Source} {want reads : Nat} (hwant : ¬want = 0)
      (h : 2 * want + s.willInterrupt.toNat ≤ reads + 1) : ∃ fewer, reads = fewer + 1 :=
    Nat.exists_eq_succ_of_ne_zero (by omega)
  fun_induction fill s want generalizing reads with
  | case1 s => rw [fillWithin.eq_def, if_pos rfl]
  | case2 s want hwant next hread ih =>
    obtain ⟨hinterrupt, rfl⟩ := read_interrupted hread
    obtain ⟨fewer, rfl⟩ := hpos hwant h
    have hcalm : willInterrupt { s with interrupted := true } = false := by simp [willInterrupt]
    rw [hinterrupt, Bool.toNat_true] at h
    rw [hcalm, Bool.toNat_false] at ih
    rw [fillWithin.eq_def, if_neg hwant]
    dsimp only
    rw [hread]
    apply ih
    omega
  | case3 s want hwant reason next hread =>
    obtain ⟨fewer, rfl⟩ := hpos hwant h
    rw [fillWithin.eq_def, if_neg hwant]
    dsimp only
    rw [hread]
  | case4 s want hwant next hread =>
    obtain ⟨fewer, rfl⟩ := hpos hwant h
    rw [fillWithin.eq_def, if_neg hwant]
    dsimp only
    rw [hread]
  | case5 s want hwant b taken next hread filled last heq ih =>
    obtain ⟨fewer, rfl⟩ := hpos hwant h
    have hle := Bool.toNat_le next.willInterrupt
    have hbehind : fillWithin fewer next (want - (taken.length + 1)) = some (filled, last) := by
      rw [← heq]
      apply ih
      omega
    rw [fillWithin.eq_def, if_neg hwant]
    dsimp only
    rw [hread]
    dsimp only
    rw [hbehind]
    rfl

end Source

end Retrace.Log
