import Retrace.Proofs.Session.Occupancy

namespace Retrace

namespace ExitProbe

/-- Poll number `j`, counted from one, is the first that sees the exit. -/
def SeenAt (answers : Nat → Bool) (j : Nat) : Prop :=
  0 < j ∧ answers (j - 1) = true ∧ ∀ i < j - 1, answers i = false

theorem waitFrom_of_unseen {answers : Nat → Bool} {k retries : Nat}
    (h : ∀ i ≤ retries, answers (k + i) = false) :
    waitFrom answers k retries = ⟨k + retries + 1, false⟩ := by
  induction retries generalizing k with
  | zero => rw [waitFrom, ← Nat.add_zero k, h 0 (Nat.le_refl 0)]
  | succ retries ih =>
    have hk : answers k = false := h 0 (Nat.zero_le _)
    have hrest : ∀ i ≤ retries, answers (k + 1 + i) = false := by
      intro i hi
      rw [Nat.add_assoc, Nat.add_comm 1 i]
      exact h (i + 1) (Nat.succ_le_succ hi)
    rw [waitFrom, hk, if_neg Bool.false_ne_true, ih hrest, Nat.add_assoc k, Nat.add_comm 1]

theorem waitFrom_of_seen {answers : Nat → Bool} {k i retries : Nat} (hle : i ≤ retries)
    (hseen : answers (k + i) = true) (hunseen : ∀ i' < i, answers (k + i') = false) :
    waitFrom answers k retries = ⟨k + i + 1, true⟩ := by
  induction retries generalizing k i with
  | zero =>
    cases Nat.le_zero.mp hle
    rw [waitFrom, Nat.add_zero] at *
    rw [hseen]
  | succ retries ih =>
    cases i with
    | zero =>
      rw [Nat.add_zero] at hseen
      rw [waitFrom, if_pos hseen, Nat.add_zero]
    | succ i =>
      have hk : answers k = false := hunseen 0 (Nat.zero_lt_succ i)
      have hshift (n : Nat) : k + 1 + n = k + (n + 1) := by omega
      rw [waitFrom, hk, if_neg Bool.false_ne_true, ih (Nat.le_of_succ_le_succ hle), hshift]
      · rw [hshift]
        exact hseen
      · intro i' hi'
        rw [hshift]
        exact hunseen (i' + 1) (Nat.succ_lt_succ hi')

theorem seenAt_or_unseen (answers : Nat → Bool) (n : Nat) :
    (∃ j ≤ n, SeenAt answers j) ∨ ∀ i < n, answers i = false := by
  induction n with
  | zero => exact .inr nofun
  | succ n ih =>
    rcases ih with ⟨j, hj, hseen⟩ | hunseen
    · exact .inl ⟨j, Nat.le_succ_of_le hj, hseen⟩
    · cases hn : answers n with
      | true => exact .inl ⟨n + 1, Nat.le_refl _, Nat.zero_lt_succ n, hn, hunseen⟩
      | false =>
        right
        intro i hi
        rcases Nat.lt_succ_iff_lt_or_eq.mp hi with hlt | rfl
        · exact hunseen i hlt
        · exact hn

theorem wait_of_unseen {answers : Nat → Bool} {retries : Nat}
    (h : ∀ i < retries + 1, answers i = false) : wait answers retries = ⟨retries + 1, false⟩ := by
  rw [wait, waitFrom_of_unseen, Nat.zero_add]
  intro i hi
  rw [Nat.zero_add]
  exact h i (Nat.lt_succ_of_le hi)

theorem wait_of_seenAt {answers : Nat → Bool} {j retries : Nat} (h : SeenAt answers j)
    (hle : j ≤ retries + 1) : wait answers retries = ⟨j, true⟩ := by
  obtain ⟨hpos, hseen, hunseen⟩ := h
  have hj : 0 + (j - 1) = j - 1 := Nat.zero_add _
  rw [wait, waitFrom_of_seen (i := j - 1) (by omega) (hj.symm ▸ hseen), hj, Nat.sub_add_cancel hpos]
  intro i hi
  rw [Nat.zero_add]
  exact hunseen i hi

/-- A probe is polled up to the poll that sees the exit, and at most once more than it may be asked
again. -/
theorem polls_wait {answers : Nat → Bool} {j : Nat} (h : SeenAt answers j) (retries : Nat) :
    (wait answers retries).polls = min j (retries + 1) := by
  by_cases hle : j ≤ retries + 1
  · rw [wait_of_seenAt h hle, Nat.min_eq_left hle]
  · rw [wait_of_unseen, Nat.min_eq_right (Nat.le_of_not_le hle)]
    intro i hi
    exact h.2.2 i (by omega)

theorem observed_wait (answers : Nat → Bool) (retries : Nat) :
    (wait answers retries).observed = true ↔ ∃ i < retries + 1, answers i = true := by
  rcases seenAt_or_unseen answers (retries + 1) with ⟨j, hle, hseen⟩ | hunseen
  · have hpos := hseen.1
    rw [wait_of_seenAt hseen hle]
    exact ⟨fun _ => ⟨j - 1, by omega, hseen.2.1⟩, fun _ => rfl⟩
  · rw [wait_of_unseen hunseen]
    constructor
    · exact nofun
    · rintro ⟨i, hi, hseen⟩
      rw [hunseen i hi] at hseen
      cases hseen

theorem wait_congr {answers answers' : Nat → Bool} {retries : Nat}
    (h : ∀ i < (wait answers retries).polls, answers' i = answers i) :
    wait answers' retries = wait answers retries := by
  rcases seenAt_or_unseen answers (retries + 1) with ⟨j, hle, hseen⟩ | hunseen
  · have hpos := hseen.1
    rw [wait_of_seenAt hseen hle] at h ⊢
    have h : ∀ i < j, answers' i = answers i := h
    refine wait_of_seenAt ⟨hpos, ?_, ?_⟩ hle
    · rw [h (j - 1) (by omega)]
      exact hseen.2.1
    · intro i hi
      rw [h i (by omega)]
      exact hseen.2.2 i hi
  · rw [wait_of_unseen hunseen] at h ⊢
    apply wait_of_unseen
    intro i hi
    rw [h i hi]
    exact hunseen i hi

end ExitProbe

namespace IdentityTable

def probeOf? (t : IdentityTable) (slot : ThreadId) : Option ExitProbe :=
  (t.get? slot).bind (·.probe)

theorem takeProbe_fst (t : IdentityTable) (slot : ThreadId) :
    (t.takeProbe slot).1 = t.probeOf? slot := by
  rw [takeProbe, probeOf?]
  cases t.get? slot <;> rfl

theorem get?_takeProbe (t : IdentityTable) (slot slot' : ThreadId) :
    (t.takeProbe slot).2.get? slot' =
      if slot' = slot then (t.get? slot).map ({ · with probe := none }) else t.get? slot' := by
  rw [takeProbe]
  split <;> rename_i hget
  · have hslot : slot.index < slotLimit := get?_isSome.mp (by rw [hget]; rfl)
    rw [get?_set, if_pos hslot, hget]
    by_cases heq : slot = slot'
    · rw [if_pos heq, if_pos heq.symm]
      rfl
    · rw [if_neg heq, if_neg (Ne.symm heq)]
  · by_cases heq : slot' = slot
    · rw [if_pos heq, heq, hget]
      rfl
    · rw [if_neg heq]

end IdentityTable

end Retrace
