import Retrace.Session.Identity

namespace Retrace

theorem ThreadId.index_inj {slot slot' : ThreadId} : slot.index = slot'.index ↔ slot = slot' := by
  obtain ⟨n⟩ := slot
  obtain ⟨n'⟩ := slot'
  simp [index, UInt32.toNat_inj]

namespace IdentityTable

def occupies (t : IdentityTable) (slot : ThreadId) : Bool :=
  match t.get? slot with
  | some identity => identity.isOccupied
  | none => false

theorem occupies_empty (slot : ThreadId) : empty.occupies slot = false := by
  simp only [occupies, get?, empty, Vector.getElem?_replicate]
  split <;> rename_i hget
  · split at hget <;> cases hget
    rfl
  · rfl

theorem get?_set (t : IdentityTable) (slot slot' : ThreadId) (identity : Identity) :
    (t.set slot identity).get? slot' =
      if slot = slot' then (if slot.index < slotLimit then some identity else none)
      else t.get? slot' := by
  simp only [get?, set, Vector.getElem?_setIfInBounds, ThreadId.index_inj]

theorem get?_isSome {t : IdentityTable} {slot : ThreadId} :
    (t.get? slot).isSome ↔ slot.index < slotLimit := by
  simp [get?]

theorem lt_of_occupies {t : IdentityTable} {slot : ThreadId} (h : t.occupies slot) :
    slot.index < slotLimit := by
  rw [occupies] at h
  split at h
  · rename_i hget
    exact get?_isSome.mp (by rw [hget]; rfl)
  · cases h

theorem occupies_set {t : IdentityTable} {slot : ThreadId} (h : slot.index < slotLimit)
    (slot' : ThreadId) (identity : Identity) :
    (t.set slot identity).occupies slot' =
      if slot = slot' then identity.isOccupied else t.occupies slot' := by
  rw [occupies, get?_set, if_pos h]
  by_cases heq : slot = slot'
  · rw [if_pos heq, if_pos heq]
  · rw [if_neg heq, if_neg heq]
    rfl

theorem occupies_of_get? {t : IdentityTable} {slot : ThreadId} {identity : Identity}
    (h : t.get? slot = some identity) : t.occupies slot = identity.isOccupied := by
  rw [occupies, h]

theorem occupies_set_same {t : IdentityTable} {slot : ThreadId} {identity identity' : Identity}
    (hget : t.get? slot = some identity) (hsame : identity'.isOccupied = identity.isOccupied)
    (slot' : ThreadId) : (t.set slot identity').occupies slot' = t.occupies slot' := by
  have hslot : slot.index < slotLimit := get?_isSome.mp (by rw [hget]; rfl)
  rw [occupies_set hslot]
  split
  · rename_i heq
    rw [hsame, ← heq, occupies_of_get? hget]
  · rfl

theorem usable_of_lt {slot : ThreadId} (hvalid : slot.isValid) (hslot : slot.index < slotLimit)
    (t : IdentityTable) :
    ∃ identity, t.get? slot = some identity ∧ t.usable slot = .ok identity := by
  obtain ⟨identity, hget⟩ := Option.isSome_iff_exists.mp (get?_isSome.mpr hslot)
  refine ⟨identity, hget, ?_⟩
  rw [usable, if_pos hvalid, hget]

theorem usable_ok {t : IdentityTable} {slot : ThreadId} {identity : Identity}
    (h : t.usable slot = .ok identity) :
    slot.isValid ∧ slot.index < slotLimit ∧ t.get? slot = some identity := by
  rw [usable] at h
  split at h
  · rename_i hvalid
    split at h
    · rename_i hget
      cases h
      exact ⟨hvalid, get?_isSome.mp (by rw [hget]; rfl), hget⟩
    · cases h
  · cases h

theorem create_of_free {t : IdentityTable} {slot : ThreadId} (hvalid : slot.isValid)
    (hslot : slot.index < slotLimit) (hfree : t.occupies slot = false)
    (recorded kernel : KernelTid) :
    ∃ t', t.create slot recorded kernel = .ok t' ∧
      ∀ slot', t'.occupies slot' = (decide (slot = slot') || t.occupies slot') := by
  obtain ⟨identity, hget, husable⟩ := usable_of_lt hvalid hslot t
  rw [occupies_of_get? hget] at hfree
  refine ⟨t.set slot { recorded := some recorded, kernel := some kernel }, ?_, ?_⟩
  · rw [create, husable]
    simp [hfree, bind, Except.bind, pure, Except.pure]
  · intro slot'
    rw [occupies_set hslot]
    by_cases heq : slot = slot'
    · rw [if_pos heq, decide_eq_true heq]
      rfl
    · rw [if_neg heq, decide_eq_false heq]
      rfl

theorem create_of_invalid {slot : ThreadId} (h : slot.isValid = false) (t : IdentityTable)
    (recorded kernel : KernelTid) : t.create slot recorded kernel = .error (.invalidSlot slot) := by
  rw [create, usable, h]
  rfl

theorem create_of_occupied {t : IdentityTable} {slot : ThreadId} (hvalid : slot.isValid)
    (h : t.occupies slot) (recorded kernel : KernelTid) :
    t.create slot recorded kernel = .error (.slotOccupied slot) := by
  obtain ⟨identity, hget, husable⟩ := usable_of_lt hvalid (lt_of_occupies h) t
  rw [occupies_of_get? hget] at h
  rw [create, husable]
  simp [h, bind, Except.bind, throw, throwThe, MonadExceptOf.throw]

/-- Only a free slot is filled, with both numbers, and no other slot is touched. -/
theorem create_ok {t t' : IdentityTable} {slot : ThreadId} {recorded kernel : KernelTid}
    (h : t.create slot recorded kernel = .ok t') :
    slot.isValid ∧ slot.index < slotLimit ∧ t.occupies slot = false ∧
      t'.get? slot = some { recorded := some recorded, kernel := some kernel } ∧
      ∀ slot', slot' ≠ slot → t'.get? slot' = t.get? slot' := by
  rw [create] at h
  cases husable : t.usable slot with
  | error e =>
    rw [husable] at h
    cases h
  | ok identity =>
    obtain ⟨hvalid, hslot, hget⟩ := usable_ok husable
    rw [husable] at h
    cases hoccupied : identity.isOccupied with
    | true =>
      simp only [hoccupied, bind, Except.bind] at h
      cases h
    | false =>
      simp only [hoccupied, bind, Except.bind, pure, Except.pure] at h
      cases h
      refine ⟨hvalid, hslot, (occupies_of_get? hget).trans hoccupied, ?_, ?_⟩
      · rw [get?_set, if_pos rfl, if_pos hslot]
      · intro slot' hne
        rw [get?_set, if_neg (Ne.symm hne)]

theorem occupies_create {t t' : IdentityTable} {slot : ThreadId} {recorded kernel : KernelTid}
    (h : t.create slot recorded kernel = .ok t') (slot' : ThreadId) (hslot : t.occupies slot') :
    t'.occupies slot' := by
  obtain ⟨_, _, _, hfilled, hothers⟩ := create_ok h
  by_cases heq : slot' = slot
  · rw [heq, occupies_of_get? hfilled]
    rfl
  · rwa [occupies, hothers slot' heq]

theorem occupies_clear (t : IdentityTable) (slot slot' : ThreadId) :
    (t.clear slot).occupies slot' = (decide (slot ≠ slot') && t.occupies slot') := by
  rw [clear]
  split <;> rename_i hget
  · have hslot : slot.index < slotLimit := get?_isSome.mp (by rw [hget]; rfl)
    rw [occupies_set hslot]
    by_cases heq : slot = slot'
    · rw [if_pos heq, decide_eq_false (fun h => h heq)]
      rfl
    · rw [if_neg heq, decide_eq_true heq]
      rfl
  · by_cases heq : slot = slot'
    · rw [← heq, occupies, hget, Bool.and_false]
    · rw [decide_eq_true heq, Bool.true_and]

theorem occupies_takeProbe (t : IdentityTable) (slot slot' : ThreadId) :
    (t.takeProbe slot).2.occupies slot' = t.occupies slot' := by
  rw [takeProbe]
  split <;> rename_i hget
  · refine occupies_set_same hget ?_ slot'
    rfl
  · rfl

theorem registerProbe_ok {t t' : IdentityTable} {slot : ThreadId} {probe : ExitProbe}
    (h : t.registerProbe slot probe = .ok t') :
    slot.isValid ∧ slot.index < slotLimit := by
  rw [registerProbe] at h
  cases husable : t.usable slot with
  | ok identity =>
    obtain ⟨hvalid, hslot, _⟩ := usable_ok husable
    exact ⟨hvalid, hslot⟩
  | error e =>
    rw [husable] at h
    cases h

theorem occupies_registerProbe {t t' : IdentityTable} {slot : ThreadId} {probe : ExitProbe}
    (h : t.registerProbe slot probe = .ok t') (slot' : ThreadId) :
    t'.occupies slot' = t.occupies slot' := by
  obtain ⟨hvalid, hslot⟩ := registerProbe_ok h
  obtain ⟨identity, hget, husable⟩ := usable_of_lt hvalid hslot t
  rw [registerProbe, husable] at h
  cases h
  refine occupies_set_same hget ?_ slot'
  rfl

theorem registerProbe_of_lt {slot : ThreadId} (hvalid : slot.isValid)
    (hslot : slot.index < slotLimit) (t : IdentityTable) (probe : ExitProbe) :
    ∃ t', t.registerProbe slot probe = .ok t' ∧
      ∀ slot', t'.occupies slot' = t.occupies slot' := by
  obtain ⟨identity, _, husable⟩ := usable_of_lt hvalid hslot t
  have hregister : t.registerProbe slot probe =
      .ok (t.set slot { identity with probe := some probe }) := by
    rw [registerProbe, husable]
    rfl
  exact ⟨_, hregister, occupies_registerProbe hregister⟩

end IdentityTable

end Retrace
