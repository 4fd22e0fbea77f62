import Retrace.Proofs.Session.Restoring

namespace Retrace

open Log

/-- What a session at the end of a turn reads of the rest of its log, whose turn it finds there, and
the rest it leaves. -/
inductive Log.ReadsAhead : Bytes → Turn → Bytes → Nat → Prop
  | ended : ReadsAhead [] .exhausted [] 0
  | next {p : Passage} {thread : ThreadId} {callerClass : CallerClass} (rest : Bytes)
      (logged : p.logged = (.acquire thread callerClass, [])) (inTable : thread.index < slotLimit) :
      ReadsAhead (p.bytes ++ rest) (.scheduled thread callerClass) rest 1

theorem Log.ReadsAhead.passage {p : Passage} {thread : ThreadId} {callerClass : CallerClass}
    {tail rest : Bytes} {turn : Turn} {count : Nat}
    (h : ReadsAhead (p.bytes ++ tail) turn rest count)
    (hlogged : p.logged = (.acquire thread callerClass, [])) :
    turn = .scheduled thread callerClass ∧ rest = tail ∧ count = 1 := by
  generalize hbytes : p.bytes ++ tail = bytes at h
  cases h with
  | ended => exact (p.append_ne_nil tail hbytes).elim
  | next rest hlogged' _ =>
    obtain ⟨hsame, rfl⟩ := Passage.append_inj hbytes
    cases hlogged.symm.trans (hsame.trans hlogged')
    exact ⟨rfl, rfl, rfl⟩

theorem Log.ReadsAhead.nil {turn : Turn} {rest : Bytes} {count : Nat}
    (h : ReadsAhead [] turn rest count) : turn = .exhausted ∧ rest = [] ∧ count = 0 := by
  generalize hbytes : ([] : Bytes) = bytes at h
  cases h with
  | ended => exact ⟨rfl, rfl, rfl⟩
  | next rest _ _ => exact (Passage.append_ne_nil _ rest hbytes.symm).elim

namespace Session

/-- A replayed turn ended: so many entries were read, nobody runs, and the turn is set. -/
structure TurnsTo (s : Session) (turn : Turn) (count : Nat) (rest : Bytes) (filled : List ThreadId)
    (s' : Session) : Prop where
  faces : s'.Faces rest filled
  entries : s'.channel.entries = s.channel.entries + count
  running : s'.running = .nobody
  turn : s'.schedule.turn = turn
  layout : s'.verifier.layout = s.verifier.layout

section turnEnd

variable {s : Session} {filled : List ThreadId} {out rest : Bytes} {turn : Turn} {count : Nat}

theorem handOver_replays (h : s.Faces out filled) (hfree : s.running = .nobody)
    (hahead : ReadsAhead out turn rest count) :
    ∃ s', s.handOver = (.ok (), s') ∧ s.TurnsTo turn count rest filled s' := by
  obtain ⟨offset, resolved, hs⟩ := h.channel
  cases hahead with
  | ended =>
    have hresolve : (Reader.plain [] offset resolved).resolve (.acquire .nobody .unknown) =
        (.error .endOfLog, .plain [] offset resolved) := by
      rw [Reader.resolve, if_neg (by decide), Reader.settleNext, Reader.plain_nextEntry_nil]
    rw [handOver, hs]
    dsimp only
    rw [hresolve]
    refine ⟨_, rfl, ⟨⟨_, _, rfl⟩, h.notClosed, h.occupied⟩, ?_, hfree, rfl, rfl⟩
    rw [hs]
    rfl
  | @next p thread callerClass _ hlogged hslot =>
    obtain ⟨hentry, hpayload⟩ := Prod.mk.inj hlogged
    have hsettle : (Entry.acquire .nobody .unknown).settle p.entry =
        .ok (.acquire thread callerClass) := by
      rw [hentry]
      exact Entry.settle_eq_ok_iff.mpr ⟨rfl, rfl, .acquire _ _ _ _ hslot⟩
    have hreaches : s.Reaches 1 rest filled { s with
        channel := .replay (.plain rest (offset + p.bytes.length) (resolved + 1)) } :=
      reaches_of_reader h hs
    rw [handOver, hs]
    dsimp only
    rw [Reader.resolve_passage hpayload rfl, hsettle]
    refine ⟨_, rfl, ⟨hreaches.faces.channel, h.notClosed, h.occupied⟩, ?_, hfree, rfl, rfl⟩
    exact hreaches.entries

theorem release_replays {p : Passage} {thread : ThreadId} {tag : ReleaseTag}
    (h : s.Faces (p.bytes ++ out) filled) (hlogged : p.logged = (.release thread tag, []))
    (hahead : ReadsAhead out turn rest count) :
    ∃ s', s.release thread tag = (.ok (), s') ∧ s.TurnsTo turn (1 + count) rest filled s' := by
  have hfaces : ({ s with running := .nobody } : Session).Faces (p.bytes ++ out) filled :=
    ⟨h.channel, h.notClosed, h.occupied⟩
  obtain ⟨s', hprocess, hreaches⟩ := process_replays hfaces hlogged rfl (.release tag)
  have hprocess : ({ s with running := .nobody } : Session).process (.release thread tag) =
      (.ok ⟨thread, .release tag⟩, s') := hprocess
  obtain ⟨s'', hhand, hturns⟩ := handOver_replays hreaches.faces hreaches.running hahead
  rw [release, hfaces.replays.isActive, if_neg Bool.false_ne_true, hprocess]
  refine ⟨s'', hhand, hturns.faces, ?_, hturns.running, hturns.turn,
    hturns.layout.trans hreaches.layout⟩
  rw [hturns.entries, hreaches.entries, Nat.add_assoc]

theorem exitThread_replays {p : Passage} {thread : ThreadId}
    (h : s.Faces (p.bytes ++ out) filled) (hlogged : p.logged = (.release thread .exitThread, []))
    (hahead : ReadsAhead out turn rest count) (hvalid : thread.isValid) :
    ∃ s', s.exitThread thread = (.ok (), s') ∧
      s.TurnsTo turn (1 + count) rest (filled.filter (· ≠ thread)) s' := by
  obtain ⟨s', hrelease, hturns⟩ := release_replays h hlogged hahead
  rw [exitThread, hvalid, if_neg (by decide), hrelease]
  dsimp only
  rw [hturns.faces.replays.isActive, if_neg Bool.false_ne_true]
  refine ⟨_, rfl, ⟨hturns.faces.channel, hturns.faces.notClosed, ?_⟩, hturns.entries,
    hturns.running, hturns.turn, hturns.layout⟩
  intro slot hslot
  have hslot := (s'.identities.occupies_clear thread slot).symm.trans hslot
  obtain ⟨hother, hbefore⟩ := Bool.and_eq_true_iff.mp hslot
  have hne : slot ≠ thread := fun heq => of_decide_eq_true hother heq.symm
  exact List.mem_filter.mpr ⟨hturns.faces.occupied slot hbefore, decide_eq_true hne⟩

end turnEnd

end Session

end Retrace
