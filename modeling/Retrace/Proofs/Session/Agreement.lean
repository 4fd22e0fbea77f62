import Retrace.Proofs.Session.Giving
import Retrace.Proofs.Session.Occupancy

namespace Retrace

open Log

def Identity.unnamed (i : Identity) : Identity := { i with kernel := i.kernel.map fun _ => ⟨0⟩ }

theorem Identity.isOccupied_unnamed (i : Identity) : i.unnamed.isOccupied = i.isOccupied := by
  rw [isOccupied, isOccupied, unnamed, Option.isSome_map]

theorem Identity.probe_eq {i i' : Identity} (h : i.unnamed = i'.unnamed) : i.probe = i'.probe := by
  have hprobe : i.unnamed.probe = i'.unnamed.probe := by rw [h]
  exact hprobe

namespace IdentityTable

/-- Two tables that differ at most in what the kernel calls the threads. -/
def Agrees (t t' : IdentityTable) : Prop :=
  ∀ slot, (t.get? slot).map Identity.unnamed = (t'.get? slot).map Identity.unnamed

theorem Agrees.refl (t : IdentityTable) : t.Agrees t := fun _ => rfl

theorem Agrees.set {t t' : IdentityTable} (h : t.Agrees t') (slot : ThreadId)
    {identity identity' : Identity} (hsame : identity.unnamed = identity'.unnamed) :
    (t.set slot identity).Agrees (t'.set slot identity') := by
  intro slot'
  rw [get?_set, get?_set]
  by_cases hslot : slot = slot'
  · rw [if_pos hslot, if_pos hslot]
    by_cases hlt : slot.index < slotLimit
    · rw [if_pos hlt, if_pos hlt, Option.map_some, Option.map_some, hsame]
    · rw [if_neg hlt, if_neg hlt]
  · rw [if_neg hslot, if_neg hslot]
    exact h slot'

theorem Agrees.get? {t t' : IdentityTable} (h : t.Agrees t') (slot : ThreadId) :
    (t.get? slot = none ∧ t'.get? slot = none) ∨
      ∃ identity identity', t.get? slot = some identity ∧ t'.get? slot = some identity' ∧
        identity.unnamed = identity'.unnamed := by
  have hslot := h slot
  cases hget : t.get? slot with
  | none =>
    cases hget' : t'.get? slot with
    | none => exact .inl ⟨rfl, rfl⟩
    | some identity' =>
      rw [hget, hget'] at hslot
      cases hslot
  | some identity =>
    cases hget' : t'.get? slot with
    | none =>
      rw [hget, hget'] at hslot
      cases hslot
    | some identity' =>
      rw [hget, hget'] at hslot
      exact .inr ⟨identity, identity', rfl, rfl, Option.some.inj hslot⟩

theorem Agrees.usable {t t' : IdentityTable} (h : t.Agrees t') (slot : ThreadId) :
    (∃ e, t.usable slot = .error e ∧ t'.usable slot = .error e) ∨
      ∃ identity identity', t.usable slot = .ok identity ∧ t'.usable slot = .ok identity' ∧
        identity.unnamed = identity'.unnamed := by
  rw [IdentityTable.usable, IdentityTable.usable]
  split
  · rcases h.get? slot with ⟨hget, hget'⟩ | ⟨identity, identity', hget, hget', hsame⟩
    · rw [hget, hget']
      exact .inl ⟨_, rfl, rfl⟩
    · rw [hget, hget']
      exact .inr ⟨identity, identity', rfl, rfl, hsame⟩
  · exact .inl ⟨_, rfl, rfl⟩

theorem Agrees.create {t t' : IdentityTable} (h : t.Agrees t') (slot : ThreadId)
    (recorded kernel kernel' : KernelTid) :
    (∃ e, t.create slot recorded kernel = .error e ∧ t'.create slot recorded kernel' = .error e) ∨
      ∃ next next', t.create slot recorded kernel = .ok next ∧
        t'.create slot recorded kernel' = .ok next' ∧ next.Agrees next' := by
  rw [IdentityTable.create, IdentityTable.create]
  rcases h.usable slot with ⟨e, husable, husable'⟩ | ⟨identity, identity', husable, husable', hsame⟩
  · rw [husable, husable']
    exact .inl ⟨e, rfl, rfl⟩
  · have hoccupied : identity'.isOccupied = identity.isOccupied := by
      rw [← identity'.isOccupied_unnamed, ← hsame, identity.isOccupied_unnamed]
    rw [husable, husable']
    dsimp only [bind, Except.bind]
    rw [hoccupied]
    cases identity.isOccupied with
    | true => exact .inl ⟨_, rfl, rfl⟩
    | false => exact .inr ⟨_, _, rfl, rfl, h.set slot rfl⟩

theorem Agrees.clear {t t' : IdentityTable} (h : t.Agrees t') (slot : ThreadId) :
    (t.clear slot).Agrees (t'.clear slot) := by
  rw [IdentityTable.clear, IdentityTable.clear]
  rcases h.get? slot with ⟨hget, hget'⟩ | ⟨identity, identity', hget, hget', hsame⟩
  · rw [hget, hget']
    exact h
  · rw [hget, hget']
    apply h.set slot
    rw [Identity.probe_eq hsame]

theorem Agrees.registerProbe {t t' : IdentityTable} (h : t.Agrees t') (slot : ThreadId)
    (probe : ExitProbe) :
    (∃ e, t.registerProbe slot probe = .error e ∧ t'.registerProbe slot probe = .error e) ∨
      ∃ next next', t.registerProbe slot probe = .ok next ∧
        t'.registerProbe slot probe = .ok next' ∧ next.Agrees next' := by
  rw [IdentityTable.registerProbe, IdentityTable.registerProbe]
  rcases h.usable slot with ⟨e, husable, husable'⟩ | ⟨identity, identity', husable, husable', hsame⟩
  · rw [husable, husable']
    exact .inl ⟨e, rfl, rfl⟩
  · rw [husable, husable']
    have hnumbers : ({ identity with probe := some probe } : Identity).unnamed =
        ({ identity' with probe := some probe } : Identity).unnamed :=
      congrArg (fun i : Identity => { i with probe := some probe }) hsame
    exact .inr ⟨_, _, rfl, rfl, h.set slot hnumbers⟩

theorem Agrees.takeProbe {t t' : IdentityTable} (h : t.Agrees t') (slot : ThreadId) :
    (t.takeProbe slot).1 = (t'.takeProbe slot).1 ∧
      (t.takeProbe slot).2.Agrees (t'.takeProbe slot).2 := by
  rw [IdentityTable.takeProbe, IdentityTable.takeProbe]
  rcases h.get? slot with ⟨hget, hget'⟩ | ⟨identity, identity', hget, hget', hsame⟩
  · rw [hget, hget']
    exact ⟨rfl, h⟩
  · rw [hget, hget']
    have hnumbers : ({ identity with probe := none } : Identity).unnamed =
        ({ identity' with probe := none } : Identity).unnamed :=
      congrArg (fun i : Identity => { i with probe := none }) hsame
    exact ⟨Identity.probe_eq hsame, h.set slot hnumbers⟩

end IdentityTable

def Summary.undiverged (s : Summary) : Summary := { s with divergence := {} }

def Verifier.undiverged (v : Verifier) : Verifier := { v with diverged := 0 }

def SessionError.unplaced : SessionError → SessionError
  | .invalidStack stackTop _ => .invalidStack stackTop 0
  | e => e

def Value.undiverged : Value → Value
  | .summary told => .summary told.undiverged
  | value => value

namespace Session

/-- Two replays that differ at most in what is told of the live run, and in what is reported of it. -/
structure Agrees (s s' : Session) : Prop where
  replays : s.Replays
  config : s.config = s'.config
  channel : s.channel = s'.channel
  running : s.running = s'.running
  schedule : s.schedule = s'.schedule
  identities : s.identities.Agrees s'.identities
  verifier : s.verifier.undiverged = s'.verifier.undiverged
  summary : s.summary.map Summary.undiverged = s'.summary.map Summary.undiverged

theorem Agrees.refl {s : Session} (h : s.Replays) : s.Agrees s :=
  ⟨h, rfl, rfl, rfl, rfl, .refl _, rfl, rfl⟩

theorem Agrees.isClosed {s s' : Session} (h : s.Agrees s') : s.isClosed = s'.isClosed := by
  have hsome := congrArg Option.isSome h.summary
  rwa [Option.isSome_map, Option.isSome_map] at hsome

theorem Agrees.replays_right {s s' : Session} (h : s.Agrees s') : s'.Replays := by
  obtain ⟨rest, offset, resolved, hs⟩ := h.replays
  exact ⟨rest, offset, resolved, h.channel.symm.trans hs⟩

theorem Agrees.goOn {s s' : Session} (h : s.Agrees s') {r : Reader}
    (hplain : ∃ rest offset resolved, r = .plain rest offset resolved) :
    ({ s with channel := .replay r } : Session).Agrees { s' with channel := .replay r } := by
  obtain ⟨rest, offset, resolved, rfl⟩ := hplain
  exact ⟨⟨_, _, _, rfl⟩, h.config, rfl, h.running, h.schedule, h.identities, h.verifier, h.summary⟩

theorem Agrees.letRun {s s' : Session} (h : s.Agrees s') (thread : ThreadId) :
    ({ s with running := thread } : Session).Agrees { s' with running := thread } :=
  ⟨h.replays, h.config, h.channel, rfl, h.schedule, h.identities, h.verifier, h.summary⟩

theorem Agrees.reschedule {s s' : Session} (h : s.Agrees s') (change : Schedule → Schedule) :
    ({ s with schedule := change s.schedule } : Session).Agrees
      { s' with schedule := change s'.schedule } :=
  ⟨h.replays, h.config, h.channel, h.running, congrArg change h.schedule, h.identities, h.verifier,
    h.summary⟩

theorem Agrees.reidentify {s s' : Session} (h : s.Agrees s') {table table' : IdentityTable}
    (htables : table.Agrees table') :
    ({ s with identities := table } : Session).Agrees { s' with identities := table' } :=
  ⟨h.replays, h.config, h.channel, h.running, h.schedule, htables, h.verifier, h.summary⟩

theorem Agrees.rewarn {s s' : Session} (h : s.Agrees s') (warnings warnings' : List Warning) :
    ({ s with warnings } : Session).Agrees { s' with warnings := warnings' } :=
  ⟨h.replays, h.config, h.channel, h.running, h.schedule, h.identities, h.verifier, h.summary⟩

theorem Agrees.checkRunning {s s' : Session} (h : s.Agrees s') (caller : ThreadId) :
    s.checkRunning caller = s'.checkRunning caller := by
  rw [Session.checkRunning, Session.checkRunning, h.running]

theorem Agrees.checkLength {s s' : Session} (h : s.Agrees s') {live live' : Bytes}
    (hlength : live.length = live'.length) :
    s.verifier.checkLength live = s'.verifier.checkLength live' := by
  have hverifier : s.verifier.undiverged.layout = s'.verifier.undiverged.layout := by
    rw [h.verifier]
  have hlayout : s.verifier.layout = s'.verifier.layout := hverifier
  rw [Verifier.checkLength, Verifier.checkLength, hlength, hlayout]

theorem Agrees.compare {s s' : Session} (h : s.Agrees s') (live live' recorded : Bytes) :
    (s.compare live recorded).Agrees (s'.compare live' recorded) := by
  have hcounts (v : Verifier) (thread : ThreadId) (live : Bytes) :
      (v.compare thread live recorded).2.2.undiverged = v.undiverged := by
    rw [Verifier.compare]
    dsimp only
    split
    · rfl
    · rfl
  have hverifier : (s.compare live recorded).verifier.undiverged =
      (s'.compare live' recorded).verifier.undiverged :=
    (hcounts s.verifier s.running live).trans
      (h.verifier.trans (hcounts s'.verifier s'.running live').symm)
  exact ⟨h.replays, h.config, h.channel, h.running, h.schedule, h.identities, hverifier, h.summary⟩

theorem Agrees.checkCounter {s s' : Session} (h : s.Agrees s') (before : Bool)
    (counter counter' recorded : UInt64) :
    (s.checkCounter before counter recorded).Agrees (s'.checkCounter before counter' recorded) := by
  have hcounts (s : Session) (counter : UInt64) :
      ∃ mismatches warnings, s.checkCounter before counter recorded =
        { s with dispatchMismatches := mismatches, warnings } := by
    rw [Session.checkCounter]
    split
    · exact ⟨s.dispatchMismatches, s.warnings, rfl⟩
    · exact ⟨_, _, rfl⟩
  obtain ⟨mismatches, warnings, hs⟩ := hcounts s counter
  obtain ⟨mismatches', warnings', hs'⟩ := hcounts s' counter'
  rw [hs, hs']
  exact ⟨h.replays, h.config, h.channel, h.running, h.schedule, h.identities, h.verifier,
    h.summary⟩

end Session

end Retrace
