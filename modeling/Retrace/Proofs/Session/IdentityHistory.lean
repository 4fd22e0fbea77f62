import Mathlib.Data.Set.Card
import Retrace.Proofs.Session.Polling

namespace Retrace

namespace IdentityTable

inductive Operation
  | create (slot : ThreadId) (recorded kernel : KernelTid)
  | clear (slot : ThreadId)
  | registerProbe (slot : ThreadId) (probe : ExitProbe)
  | takeProbe (slot : ThreadId)
  deriving DecidableEq

namespace Operation

def slot : Operation → ThreadId
  | create slot _ _ | clear slot | registerProbe slot _ | takeProbe slot => slot

/-- What becomes of the slot of an operation that is not refused. -/
def effect : Operation → Identity → Identity
  | create _ recorded kernel, _ => { recorded := some recorded, kernel := some kernel }
  | clear _, identity => { probe := identity.probe }
  | registerProbe _ probe, identity => { identity with probe := some probe }
  | takeProbe _, identity => { identity with probe := none }

end Operation

def perform (t : IdentityTable) :
    Operation → Except SessionError (Option ExitProbe) × IdentityTable
  | .create slot recorded kernel =>
    match t.create slot recorded kernel with
    | .ok t' => (.ok none, t')
    | .error e => (.error e, t)
  | .clear slot => (.ok none, t.clear slot)
  | .registerProbe slot probe =>
    match t.registerProbe slot probe with
    | .ok t' => (.ok none, t')
    | .error e => (.error e, t)
  | .takeProbe slot => (.ok (t.takeProbe slot).1, (t.takeProbe slot).2)

def run (t : IdentityTable) (ops : List Operation) : IdentityTable :=
  ops.foldl (fun t op => (t.perform op).2) t

theorem run_nil (t : IdentityTable) : t.run [] = t := rfl

theorem run_cons (t : IdentityTable) (op : Operation) (rest : List Operation) :
    t.run (op :: rest) = (t.perform op).2.run rest := rfl

def refusal? (t : IdentityTable) : Operation → Option SessionError
  | .create slot _ _ =>
    if slot.isValid ∧ slot.index < slotLimit then
      if t.occupies slot then some (.slotOccupied slot) else none
    else some (.invalidSlot slot)
  | .registerProbe slot _ =>
    if slot.isValid ∧ slot.index < slotLimit then none else some (.invalidSlot slot)
  | .clear _ | .takeProbe _ => none

section Step

variable {t : IdentityTable}

theorem usable_of_not_usable {slot : ThreadId} (h : ¬(slot.isValid ∧ slot.index < slotLimit))
    (t : IdentityTable) : t.usable slot = .error (.invalidSlot slot) := by
  cases husable : t.usable slot with
  | ok identity =>
    obtain ⟨hvalid, hslot, _⟩ := usable_ok husable
    exact (h ⟨hvalid, hslot⟩).elim
  | error e =>
    rw [usable] at husable
    split at husable
    · split at husable
      · cases husable
      · exact husable.symm
    · exact husable.symm

/-- One slot is changed, and no other one is. -/
def Changes (t : IdentityTable) (op : Operation) (t' : IdentityTable) : Prop :=
  ∀ slot, t'.get? slot = if slot = op.slot then (t.get? slot).map op.effect else t.get? slot

theorem changes_set (op : Operation) {identity : Identity} (hget : t.get? op.slot = some identity) :
    t.Changes op (t.set op.slot (op.effect identity)) := by
  intro slot
  have hlt : op.slot.index < slotLimit := get?_isSome.mp (by rw [hget]; rfl)
  rw [get?_set, if_pos hlt]
  by_cases heq : op.slot = slot
  · rw [if_pos heq, if_pos heq.symm, ← heq, hget]
    rfl
  · rw [if_neg heq, if_neg (Ne.symm heq)]

theorem changes_of_none {op : Operation} (hget : t.get? op.slot = none) : t.Changes op t := by
  intro slot
  split
  · rename_i heq
    rw [heq, hget]
    rfl
  · rfl

/-- An operation that is refused changes nothing; any other one changes its slot. -/
inductive Performs (t : IdentityTable) (op : Operation) :
    Except SessionError (Option ExitProbe) × IdentityTable → Prop
  | refused {e : SessionError} (refusal : t.refusal? op = some e) : Performs t op (.error e, t)
  | done (probe : Option ExitProbe) {t' : IdentityTable} (allowed : t.refusal? op = none)
      (changes : t.Changes op t') : Performs t op (.ok probe, t')

theorem perform_create (t : IdentityTable) (slot : ThreadId) (recorded kernel : KernelTid) :
    t.Performs (.create slot recorded kernel) (t.perform (.create slot recorded kernel)) := by
  rw [perform, create]
  by_cases hin : slot.isValid ∧ slot.index < slotLimit
  · obtain ⟨identity, hget, husable⟩ := usable_of_lt hin.1 hin.2 t
    rw [husable]
    cases hoccupied : identity.isOccupied with
    | true =>
      simp only [hoccupied, bind, Except.bind]
      refine .refused ?_
      rw [refusal?, if_pos hin, occupies_of_get? hget, hoccupied]
      rfl
    | false =>
      simp only [hoccupied, bind, Except.bind, pure, Except.pure]
      refine .done none ?_ (changes_set (.create slot recorded kernel) hget)
      rw [refusal?, if_pos hin, occupies_of_get? hget, hoccupied]
      rfl
  · rw [usable_of_not_usable hin]
    exact .refused (if_neg hin)

theorem perform_registerProbe (t : IdentityTable) (slot : ThreadId) (probe : ExitProbe) :
    t.Performs (.registerProbe slot probe) (t.perform (.registerProbe slot probe)) := by
  rw [perform, registerProbe]
  by_cases hin : slot.isValid ∧ slot.index < slotLimit
  · obtain ⟨identity, hget, husable⟩ := usable_of_lt hin.1 hin.2 t
    rw [husable]
    exact .done none (if_pos hin) (changes_set (.registerProbe slot probe) hget)
  · rw [usable_of_not_usable hin]
    exact .refused (if_neg hin)

theorem perform_performs (t : IdentityTable) (op : Operation) : t.Performs op (t.perform op) := by
  cases op with
  | create slot recorded kernel => exact t.perform_create slot recorded kernel
  | registerProbe slot probe => exact t.perform_registerProbe slot probe
  | clear slot =>
    rw [perform, clear]
    split <;> rename_i hget
    · exact .done none rfl (changes_set (.clear slot) hget)
    · exact .done none rfl (changes_of_none hget)
  | takeProbe slot =>
    refine .done _ rfl ?_
    rw [takeProbe]
    split <;> rename_i hget
    · exact changes_set (.takeProbe slot) hget
    · exact changes_of_none hget

theorem get?_perform_of_ne (t : IdentityTable) (op : Operation) {slot : ThreadId}
    (hne : slot ≠ op.slot) : (t.perform op).2.get? slot = t.get? slot := by
  have hperforms := t.perform_performs op
  generalize t.perform op = result at hperforms ⊢
  cases hperforms with
  | refused => rfl
  | done _ _ changes => rw [changes slot, if_neg hne]

theorem get?_clear (t : IdentityTable) (slot : ThreadId) :
    (t.clear slot).get? slot = (t.get? slot).map fun identity => { probe := identity.probe } := by
  rw [clear]
  split <;> rename_i hget
  · exact (changes_set (.clear slot) hget slot).trans (if_pos rfl)
  · rw [hget]
    rfl

theorem perform_error_iff (t : IdentityTable) (op : Operation) (e : SessionError) :
    (t.perform op).1 = .error e ↔ t.refusal? op = some e := by
  have hperforms := t.perform_performs op
  generalize t.perform op = result at hperforms ⊢
  cases hperforms with
  | refused refusal =>
    rw [refusal, Except.error.injEq, Option.some.injEq]
  | done _ allowed =>
    rw [allowed]
    exact ⟨nofun, nofun⟩

theorem perform_of_error {op : Operation} {e : SessionError} (h : (t.perform op).1 = .error e) :
    (t.perform op).2 = t := by
  have hperforms := t.perform_performs op
  generalize t.perform op = result at hperforms h ⊢
  cases hperforms with
  | refused => rfl
  | done => cases h

/-- What holds of a table and is kept by every change of one of its slots holds after all that is
done. -/
theorem run_induction {P : IdentityTable → Prop} (ops : List Operation) (h : P t)
    (hstep : ∀ (t t' : IdentityTable) (op : Operation), t.refusal? op = none → t.Changes op t' →
      P t → P t') : P (t.run ops) := by
  induction ops generalizing t with
  | nil => exact h
  | cons op rest ih =>
    rw [run_cons]
    apply ih
    have hperforms := t.perform_performs op
    generalize t.perform op = result at hperforms ⊢
    cases hperforms with
    | refused => exact h
    | done _ allowed changes => exact hstep t _ op allowed changes h

end Step

section Pairing

variable {t t' : IdentityTable} {op : Operation}

/-- Every slot holds both numbers or none, and the slot of nobody is as it was at first. -/
structure Paired (t : IdentityTable) : Prop where
  both : ∀ slot identity, t.get? slot = some identity →
    identity.recorded.isSome = identity.kernel.isSome
  nobody : t.get? .nobody = some {}

theorem paired_empty : empty.Paired where
  both slot identity hget := by
    simp only [get?, empty, Vector.getElem?_replicate] at hget
    split at hget <;> cases hget
    rfl
  nobody := by decide +kernel

theorem Operation.pairs_effect (op : Operation) {identity : Identity}
    (h : identity.recorded.isSome = identity.kernel.isSome) :
    (op.effect identity).recorded.isSome = (op.effect identity).kernel.isSome := by
  cases op <;> first | rfl | exact h

theorem effect_of_nobody (hallowed : t.refusal? op = none) (hslot : op.slot = .nobody) :
    op.effect {} = {} := by
  have hinvalid : ¬(ThreadId.nobody.isValid ∧ ThreadId.nobody.index < slotLimit) :=
    fun h => Bool.false_ne_true h.1
  cases op with
  | clear | takeProbe => rfl
  | create slot | registerProbe slot =>
    obtain rfl : slot = .nobody := hslot
    rw [refusal?, if_neg hinvalid] at hallowed
    cases hallowed

theorem Paired.changes (h : t.Paired) (hallowed : t.refusal? op = none)
    (hchanges : t.Changes op t') : t'.Paired := by
  constructor
  · intro slot identity hget
    rw [hchanges slot] at hget
    split at hget
    · obtain ⟨old, hold, rfl⟩ := Option.map_eq_some_iff.mp hget
      exact op.pairs_effect (h.both slot old hold)
    · exact h.both slot identity hget
  · rw [hchanges .nobody]
    split
    · rename_i hslot
      rw [h.nobody, Option.map_some, effect_of_nobody hallowed hslot.symm]
    · exact h.nobody

theorem Paired.run (h : t.Paired) (ops : List Operation) : (t.run ops).Paired :=
  run_induction ops h fun _ _ _ hallowed hchanges h => h.changes hallowed hchanges

end Pairing

section Filling

variable {t t' : IdentityTable} {op : Operation}

/-- A slot is filled after the operations before, and not refused. -/
def Fills (t : IdentityTable) (ops before : List Operation) (slot : ThreadId)
    (recorded kernel : KernelTid) (after : List Operation) : Prop :=
  ops = before ++ .create slot recorded kernel :: after ∧
    (t.run before).refusal? (.create slot recorded kernel) = none

/-- A slot was filled by one of the operations and not cleared since. -/
def Standing (t : IdentityTable) (ops : List Operation) (slot : ThreadId) : Prop :=
  ∃ before recorded kernel after,
    t.Fills ops before slot recorded kernel after ∧ .clear slot ∉ after

variable {ops before after : List Operation} {slot : ThreadId} {recorded kernel : KernelTid}

theorem not_fills_nil : ¬t.Fills [] before slot recorded kernel after := by
  rintro ⟨hops, _⟩
  exact List.append_ne_nil_of_right_ne_nil before (List.cons_ne_nil _ _) hops.symm

theorem fills_cons :
    t.Fills (op :: ops) before slot recorded kernel after ↔
      (before = [] ∧ op = .create slot recorded kernel ∧ t.refusal? op = none ∧ after = ops) ∨
        ∃ before', before = op :: before' ∧
          (t.perform op).2.Fills ops before' slot recorded kernel after := by
  constructor
  · rintro ⟨hops, hallowed⟩
    cases before with
    | nil =>
      obtain ⟨rfl, rfl⟩ := List.cons.inj hops
      exact .inl ⟨rfl, rfl, hallowed, rfl⟩
    | cons first before =>
      obtain ⟨rfl, rfl⟩ := List.cons.inj hops
      exact .inr ⟨before, rfl, rfl, hallowed⟩
  · rintro (⟨rfl, rfl, hallowed, rfl⟩ | ⟨before, rfl, rfl, hallowed⟩)
    · exact ⟨rfl, hallowed⟩
    · exact ⟨rfl, hallowed⟩

theorem standing_cons :
    t.Standing (op :: ops) slot ↔
      (∃ recorded kernel, op = .create slot recorded kernel ∧ t.refusal? op = none) ∧
        .clear slot ∉ ops ∨
      (t.perform op).2.Standing ops slot := by
  constructor
  · rintro ⟨before, recorded, kernel, after, hfills, hkept⟩
    rcases fills_cons.mp hfills with ⟨_, hop, hallowed, rfl⟩ | ⟨before, _, hfills⟩
    · exact .inl ⟨⟨recorded, kernel, hop, hallowed⟩, hkept⟩
    · exact .inr ⟨before, recorded, kernel, after, hfills, hkept⟩
  · rintro (⟨⟨recorded, kernel, hop, hallowed⟩, hkept⟩ |
      ⟨before, recorded, kernel, after, hfills, hkept⟩)
    · exact ⟨[], recorded, kernel, ops, fills_cons.mpr (.inl ⟨rfl, hop, hallowed, rfl⟩), hkept⟩
    · exact ⟨op :: before, recorded, kernel, after, fills_cons.mpr (.inr ⟨before, rfl, hfills⟩),
        hkept⟩

theorem occupies_eq_any (t : IdentityTable) (slot : ThreadId) :
    t.occupies slot = (t.get? slot).any (·.isOccupied) := by
  rw [occupies]
  cases t.get? slot <;> rfl

theorem isSome_of_create_allowed {slot : ThreadId} {recorded kernel : KernelTid}
    (h : t.refusal? (.create slot recorded kernel) = none) : (t.get? slot).isSome := by
  rw [refusal?] at h
  split at h
  · rename_i hin
    exact get?_isSome.mpr hin.2
  · cases h

theorem occupies_changes (hallowed : t.refusal? op = none) (hchanges : t.Changes op t')
    (slot : ThreadId) :
    t'.occupies slot ↔ (∃ recorded kernel, op = .create slot recorded kernel) ∨
      t.occupies slot ∧ op ≠ .clear slot := by
  have hother (h : slot ≠ op.slot) : t'.occupies slot = t.occupies slot := by
    rw [occupies_eq_any, occupies_eq_any, hchanges slot, if_neg h]
  have hsame (h : slot = op.slot) :
      t'.occupies slot = (t.get? slot).any ((·.isOccupied) ∘ op.effect) := by
    rw [occupies_eq_any, hchanges slot, if_pos h, Option.any_map]
    rfl
  cases op with
  | create filled recorded kernel =>
    by_cases heq : slot = filled
    · subst heq
      obtain ⟨identity, hget⟩ := Option.isSome_iff_exists.mp (isSome_of_create_allowed hallowed)
      rw [hsame rfl, hget]
      exact ⟨fun _ => .inl ⟨recorded, kernel, rfl⟩, fun _ => rfl⟩
    · rw [hother heq]
      refine ⟨fun h => .inr ⟨h, nofun⟩, ?_⟩
      rintro (⟨_, _, hop⟩ | ⟨h, _⟩)
      · cases hop
        exact (heq rfl).elim
      · exact h
  | clear cleared =>
    by_cases heq : slot = cleared
    · subst heq
      rw [hsame rfl]
      simp [Operation.effect, Identity.isOccupied, Function.comp_def]
    · rw [hother heq]
      simp [Ne.symm heq]
  | registerProbe given | takeProbe given =>
    by_cases heq : slot = given
    · subst heq
      rw [hsame rfl, occupies_eq_any]
      simp [Function.comp_def, Operation.effect, Identity.isOccupied]
    · rw [hother heq]
      simp

theorem occupies_perform (t : IdentityTable) (op : Operation) (slot : ThreadId) :
    (t.perform op).2.occupies slot ↔
      (∃ recorded kernel, op = .create slot recorded kernel ∧ t.refusal? op = none) ∨
        t.occupies slot ∧ op ≠ .clear slot := by
  have hperforms := t.perform_performs op
  generalize t.perform op = result at hperforms ⊢
  cases hperforms with
  | refused refusal =>
    have hclear : op ≠ .clear slot := by
      rintro rfl
      cases refusal
    simp [refusal, hclear]
  | done _ allowed changes => simp only [occupies_changes allowed changes, allowed, and_true]

/-- After all that is done a slot holds numbers if it was filled and not cleared since, or if it did
from the beginning and was never cleared. -/
theorem occupies_run (t : IdentityTable) (ops : List Operation) (slot : ThreadId) :
    (t.run ops).occupies slot ↔ t.Standing ops slot ∨ t.occupies slot ∧ .clear slot ∉ ops := by
  induction ops generalizing t with
  | nil =>
    rw [run_nil]
    exact ⟨fun h => .inr ⟨h, List.not_mem_nil⟩,
      fun h => h.elim (fun ⟨_, _, _, _, hfills, _⟩ => (not_fills_nil hfills).elim) (·.1)⟩
  | cons op rest ih =>
    rw [run_cons, ih, standing_cons, occupies_perform, List.mem_cons, not_or]
    grind

end Filling

section Slots

variable {t : IdentityTable}

def places : List ThreadId := (List.range slotLimit).map fun i => ⟨.ofNat i⟩

theorem index_place {i : Nat} (h : i < slotLimit) : (ThreadId.mk (.ofNat i)).index = i :=
  UInt32.toNat_ofNat_of_lt (Nat.lt_trans h (by decide))

theorem mem_places {slot : ThreadId} : slot ∈ places ↔ slot.index < slotLimit := by
  rw [places, List.mem_map]
  constructor
  · rintro ⟨i, hi, rfl⟩
    rw [index_place (List.mem_range.mp hi)]
    exact List.mem_range.mp hi
  · intro h
    exact ⟨slot.index, List.mem_range.mpr h, ThreadId.index_inj.mp (index_place h)⟩

theorem nodup_places : places.Nodup := by
  rw [places, List.nodup_map_iff_inj_on List.nodup_range]
  intro i hi j hj heq
  rw [← index_place (List.mem_range.mp hi), heq, index_place (List.mem_range.mp hj)]

theorem map_get?_places (t : IdentityTable) : places.map t.get? = t.slots.toList.map some := by
  apply List.ext_getElem
  · rw [places, List.length_map, List.length_map, List.length_map, List.length_range,
      Vector.length_toList]
  · intro i hi _
    rw [places, List.length_map, List.length_map, List.length_range] at hi
    simp [places, get?, index_place hi, hi]

theorem mem_slots {identity : Identity} :
    identity ∈ t.slots.toList ↔ ∃ slot, t.get? slot = some identity := by
  have hmap : identity ∈ t.slots.toList ↔ some identity ∈ t.slots.toList.map some := by simp
  rw [hmap, ← map_get?_places, List.mem_map]
  refine ⟨fun ⟨slot, _, hget⟩ => ⟨slot, hget⟩, ?_⟩
  rintro ⟨slot, hget⟩
  exact ⟨slot, mem_places.mpr (get?_isSome.mp (by rw [hget]; rfl)), hget⟩

theorem occupied_eq_ncard (t : IdentityTable) :
    t.occupied = {slot | t.occupies slot = true}.ncard := by
  have hset : {slot | t.occupies slot = true} = ↑(places.filter t.occupies).toFinset := by
    ext slot
    rw [Set.mem_ofPred, List.coe_toFinset, Set.mem_ofPred, List.mem_filter, mem_places]
    exact ⟨fun h => ⟨lt_of_occupies h, h⟩, (·.2)⟩
  have hcount : t.occupied = (t.slots.toList.map some).countP (·.any (·.isOccupied)) := by
    rw [List.countP_map]
    rfl
  rw [hset, Set.ncard_coe_finset, List.toFinset_card_of_nodup (nodup_places.filter _), hcount,
    ← map_get?_places, List.countP_map, List.countP_eq_length_filter]
  congr 2
  funext slot
  exact (t.occupies_eq_any slot).symm

end Slots

section Numbers

variable {t t' : IdentityTable} {op : Operation}

def Holds (t : IdentityTable) (number : Identity → Option KernelTid) (slot : ThreadId)
    (n : KernelTid) : Prop :=
  ∃ identity, t.get? slot = some identity ∧ number identity = some n

/-- No two slots have the same number. -/
def Distinct (t : IdentityTable) (number : Identity → Option KernelTid) : Prop :=
  ∀ slot slot' n, t.Holds number slot n → t.Holds number slot' n → slot = slot'

/-- A slot has the two numbers of a thread. -/
def Knows (t : IdentityTable) (recorded kernel : KernelTid) : Prop :=
  ∃ slot identity, t.get? slot = some identity ∧ identity.recorded = some recorded ∧
    identity.kernel = some kernel

theorem find?_bind_iff {number other : Identity → Option KernelTid} (h : t.Distinct number)
    (n m : KernelTid) :
    (t.slots.toList.find? (number · == some n)).bind other = some m ↔
      ∃ slot identity, t.get? slot = some identity ∧ number identity = some n ∧
        other identity = some m := by
  constructor
  · intro hfind
    obtain ⟨identity, hfind, hother⟩ := Option.bind_eq_some_iff.mp hfind
    obtain ⟨slot, hget⟩ := mem_slots.mp (List.mem_of_find?_eq_some hfind)
    have hnumber := List.find?_some hfind
    exact ⟨slot, identity, hget, beq_iff_eq.mp hnumber, hother⟩
  · rintro ⟨slot, identity, hget, hnumber, hother⟩
    have hsome : (t.slots.toList.find? (number · == some n)).isSome := by
      rw [List.find?_isSome]
      exact ⟨identity, mem_slots.mpr ⟨slot, hget⟩, beq_iff_eq.mpr hnumber⟩
    obtain ⟨found, hfind⟩ := Option.isSome_iff_exists.mp hsome
    obtain ⟨slot', hget'⟩ := mem_slots.mp (List.mem_of_find?_eq_some hfind)
    have hnumber' := List.find?_some hfind
    obtain rfl := h slot slot' n ⟨identity, hget, hnumber⟩ ⟨found, hget', beq_iff_eq.mp hnumber'⟩
    rw [hget] at hget'
    cases hget'
    rw [hfind, Option.bind_some, hother]

/-- No slot that holds numbers has one of these. -/
def Unheld (t : IdentityTable) (recorded kernel : KernelTid) : Prop :=
  ∀ slot identity, t.get? slot = some identity → identity.isOccupied →
    identity.recorded ≠ some recorded ∧ identity.kernel ≠ some kernel

theorem unheld_iff {recorded kernel : KernelTid} :
    t.Unheld recorded kernel ↔ ∀ identity ∈ t.slots.toList, identity.isOccupied →
      identity.recorded ≠ some recorded ∧ identity.kernel ≠ some kernel := by
  constructor
  · intro h identity hmem
    obtain ⟨slot, hget⟩ := mem_slots.mp hmem
    exact h slot identity hget
  · intro h slot identity hget
    exact h identity (mem_slots.mpr ⟨slot, hget⟩)

theorem Unheld.not_holds {recorded kernel : KernelTid} (h : t.Unheld recorded kernel)
    (slot : ThreadId) :
    ¬t.Holds (·.recorded) slot recorded ∧ ¬t.Holds (·.kernel) slot kernel := by
  constructor
  · rintro ⟨identity, hget, hnumber⟩
    exact (h slot identity hget (by simp [Identity.isOccupied, hnumber])).1 hnumber
  · rintro ⟨identity, hget, hnumber⟩
    exact (h slot identity hget (by simp [Identity.isOccupied, hnumber])).2 hnumber

theorem Distinct.changes {number : Identity → Option KernelTid} (h : t.Distinct number)
    (hchanges : t.Changes op t')
    (hnew : ∀ identity n, number (op.effect identity) = some n →
      number identity = some n ∨ ∀ slot, ¬t.Holds number slot n) : t'.Distinct number := by
  have hback {slot : ThreadId} {n : KernelTid} (hholds : t'.Holds number slot n) :
      t.Holds number slot n ∨ slot = op.slot ∧ ∀ slot', ¬t.Holds number slot' n := by
    obtain ⟨identity, hget, hnumber⟩ := hholds
    rw [hchanges slot] at hget
    split at hget
    · rename_i hslot
      obtain ⟨old, hold, rfl⟩ := Option.map_eq_some_iff.mp hget
      exact (hnew old n hnumber).imp (fun hnumber => ⟨old, hold, hnumber⟩) fun hnone => ⟨hslot, hnone⟩
    · exact .inl ⟨identity, hget, hnumber⟩
  intro slot slot' n hholds hholds'
  rcases hback hholds, hback hholds' with ⟨hold | ⟨hslot, hnone⟩, hold' | ⟨hslot', hnone'⟩⟩
  · exact h slot slot' n hold hold'
  · exact (hnone' slot hold).elim
  · exact (hnone slot' hold').elim
  · exact hslot.trans hslot'.symm

/-- Neither number of a thread is also one of another thread. -/
structure Apart (t : IdentityTable) : Prop where
  recorded : t.Distinct (·.recorded)
  kernel : t.Distinct (·.kernel)

theorem apart_empty : empty.Apart := by
  have hnone (number : Identity → Option KernelTid) (h : number {} = none) (slot : ThreadId)
      (n : KernelTid) : ¬empty.Holds number slot n := by
    rintro ⟨identity, hget, hnumber⟩
    simp only [get?, empty, Vector.getElem?_replicate] at hget
    split at hget <;> cases hget
    rw [h] at hnumber
    cases hnumber
  exact ⟨fun slot _ n hholds _ => (hnone _ rfl slot n hholds).elim,
    fun slot _ n hholds _ => (hnone _ rfl slot n hholds).elim⟩

theorem Apart.changes (h : t.Apart) (hchanges : t.Changes op t')
    (hfresh : ∀ slot recorded kernel, op = .create slot recorded kernel →
      t.Unheld recorded kernel) : t'.Apart := by
  constructor
  · refine h.recorded.changes hchanges ?_
    intro identity n hnumber
    cases op with
    | create slot recorded kernel =>
      obtain rfl : recorded = n := Option.some.inj hnumber
      exact .inr fun slot' => ((hfresh slot recorded kernel rfl).not_holds slot').1
    | clear => cases hnumber
    | registerProbe | takeProbe => exact .inl hnumber
  · refine h.kernel.changes hchanges ?_
    intro identity n hnumber
    cases op with
    | create slot recorded kernel =>
      obtain rfl : kernel = n := Option.some.inj hnumber
      exact .inr fun slot' => ((hfresh slot recorded kernel rfl).not_holds slot').2
    | clear => cases hnumber
    | registerProbe | takeProbe => exact .inl hnumber

/-- Whatever fills a slot has two numbers that no slot has at that time. -/
def Fresh (t : IdentityTable) (ops : List Operation) : Prop :=
  ∀ before slot recorded kernel after, t.Fills ops before slot recorded kernel after →
    (t.run before).Unheld recorded kernel

theorem fresh_nil (t : IdentityTable) : t.Fresh [] :=
  fun _ _ _ _ _ hfills => (not_fills_nil hfills).elim

theorem fresh_cons {ops : List Operation} :
    t.Fresh (op :: ops) ↔
      (∀ slot recorded kernel, op = .create slot recorded kernel → t.refusal? op = none →
        t.Unheld recorded kernel) ∧ (t.perform op).2.Fresh ops := by
  constructor
  · intro h
    constructor
    · intro slot recorded kernel hop hallowed
      exact h [] slot recorded kernel ops (fills_cons.mpr (.inl ⟨rfl, hop, hallowed, rfl⟩))
    · intro before slot recorded kernel after hfills
      exact h (op :: before) slot recorded kernel after (fills_cons.mpr (.inr ⟨before, rfl, hfills⟩))
  · rintro ⟨hop, hops⟩ before slot recorded kernel after hfills
    rcases fills_cons.mp hfills with ⟨rfl, hcreate, hallowed, rfl⟩ | ⟨before, rfl, hrest⟩
    · exact hop slot recorded kernel hcreate hallowed
    · exact hops before slot recorded kernel after hrest

theorem Apart.run (h : t.Apart) {ops : List Operation} (hfresh : t.Fresh ops) :
    (t.run ops).Apart := by
  induction ops generalizing t with
  | nil => exact h
  | cons op rest ih =>
    obtain ⟨hop, hrest⟩ := fresh_cons.mp hfresh
    rw [run_cons]
    refine ih ?_ hrest
    have hperforms := t.perform_performs op
    generalize t.perform op = result at hperforms ⊢
    cases hperforms with
    | refused => exact h
    | done _ allowed changes =>
      refine h.changes changes ?_
      intro slot recorded kernel hcreate
      exact hop slot recorded kernel hcreate allowed

theorem Apart.kernelOf?_iff (h : t.Apart) (recorded kernel : KernelTid) :
    t.kernelOf? recorded = some kernel ↔ t.Knows recorded kernel :=
  find?_bind_iff h.recorded recorded kernel

theorem Apart.recordedOf?_iff (h : t.Apart) (recorded kernel : KernelTid) :
    t.recordedOf? kernel = some recorded ↔ t.Knows recorded kernel := by
  refine (find?_bind_iff h.kernel kernel recorded).trans ?_
  simp only [Knows, and_comm]

end Numbers

/-- After any operations on an empty table every slot holds both numbers or none, the slot of nobody
holds nothing, and the slots that hold numbers are those that were filled and not cleared since. What is
then refused is refused for the one reason there is and changes nothing; what is not changes one slot
only, and clearing one keeps its probe. If the numbers were new whenever a slot was filled, the table
leads from either number of a thread to the other, and from no other number. -/
theorem table_of_history (ops : List Operation) :
    (∀ slot identity, (empty.run ops).get? slot = some identity →
      identity.recorded.isSome = identity.kernel.isSome) ∧
    (empty.run ops).get? .nobody = some {} ∧
    (empty.run ops).occupied = {slot | empty.Standing ops slot}.ncard ∧
    (∀ op e, ((empty.run ops).perform op).1 = .error e ↔ (empty.run ops).refusal? op = some e) ∧
    (∀ op e, ((empty.run ops).perform op).1 = .error e →
      ((empty.run ops).perform op).2 = empty.run ops) ∧
    (∀ op slot, slot ≠ op.slot →
      ((empty.run ops).perform op).2.get? slot = (empty.run ops).get? slot) ∧
    (∀ slot, ((empty.run ops).clear slot).get? slot =
      ((empty.run ops).get? slot).map fun identity => { probe := identity.probe }) ∧
    (empty.Fresh ops → ∀ recorded kernel,
      ((empty.run ops).kernelOf? recorded = some kernel ↔
        (empty.run ops).recordedOf? kernel = some recorded) ∧
      ((empty.run ops).recordedOf? kernel = some recorded ↔
        (empty.run ops).Knows recorded kernel)) := by
  have hpaired := paired_empty.run ops
  refine ⟨hpaired.both, hpaired.nobody, ?_, perform_error_iff _, ?_, ?_, ?_, ?_⟩
  · rw [occupied_eq_ncard]
    congr 1
    ext slot
    rw [Set.mem_ofPred, Set.mem_ofPred, occupies_run, occupies_empty]
    simp
  · intro op e
    exact perform_of_error
  · intro op slot hne
    exact get?_perform_of_ne _ op hne
  · exact get?_clear _
  · intro hfresh recorded kernel
    have hapart := apart_empty.run hfresh
    rw [hapart.kernelOf?_iff, hapart.recordedOf?_iff]
    exact ⟨.rfl, .rfl⟩

/-- A thread goes, and another one gets the number that it had in this run. -/
def recycled : List Operation :=
  [.create ⟨2⟩ ⟨10⟩ ⟨20⟩, .registerProbe ⟨2⟩ ⟨7⟩, .clear ⟨2⟩, .create ⟨3⟩ ⟨11⟩ ⟨20⟩]

theorem table_of_history_recycled :
    empty.Fresh recycled ∧ (empty.run recycled).recordedOf? ⟨20⟩ = some ⟨11⟩ ∧
      (empty.run recycled).kernelOf? ⟨11⟩ = some ⟨20⟩ ∧ (empty.run recycled).Knows ⟨11⟩ ⟨20⟩ ∧
      ((empty.run recycled).perform (.create ⟨3⟩ ⟨12⟩ ⟨22⟩)).1 = .error (.slotOccupied ⟨3⟩) := by
  have hfresh : empty.Fresh recycled := by
    rw [recycled, fresh_cons, fresh_cons, fresh_cons, fresh_cons]
    refine ⟨?_, nofun, nofun, ?_, fresh_nil _⟩
    · rintro _ _ _ hop _
      cases hop
      exact unheld_iff.mpr (by decide +kernel)
    · rintro _ _ _ hop _
      cases hop
      exact unheld_iff.mpr (by decide +kernel)
  obtain ⟨_, _, _, hrefused, _, _, _, hlookups⟩ := table_of_history recycled
  obtain ⟨hkernel, hrecorded⟩ := hlookups hfresh ⟨11⟩ ⟨20⟩
  have hlookup : (empty.run recycled).recordedOf? ⟨20⟩ = some ⟨11⟩ := by decide +kernel
  exact ⟨hfresh, hlookup, hkernel.mpr hlookup, hrecorded.mp hlookup,
    (hrefused _ _).mpr (by decide +kernel)⟩

end IdentityTable

end Retrace
