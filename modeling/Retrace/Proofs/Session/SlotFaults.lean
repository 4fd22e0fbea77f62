import Retrace.Proofs.Session.Departure
import Retrace.Proofs.Session.Installing

namespace Retrace

open Log

namespace Session

theorem process_congr {s : Session} (h : s.Records) (entry entry' : Entry)
    (hentry : entry.payloadLength = 0) (hentry' : entry'.payloadLength = 0) :
    (∃ e, (s.process entry).1 = .error e ∧ (s.process entry').1 = .error e) ∨
      (s.process entry).1 = .ok entry ∧ (s.process entry').1 = .ok entry' := by
  obtain ⟨w, hs⟩ := h
  have hsame := w.append_congr hentry hentry'
  rw [process, process]
  by_cases hclosed : s.isClosed
  · rw [if_pos hclosed, if_pos hclosed]
    exact .inl ⟨_, rfl, rfl⟩
  · rw [if_neg hclosed, if_neg hclosed, hs, Channel.process, Channel.process]
    rcases happend : w.append entry [] with ⟨result, w₁⟩
    rcases happend' : w.append entry' [] with ⟨result', w₁'⟩
    rw [happend, happend'] at hsame
    cases hsame
    cases result with
    | error e => exact .inl ⟨_, rfl, rfl⟩
    | ok => exact .inr ⟨rfl, rfl⟩

theorem threadCreate_blind {s : Session} (h : s.Records) (parent child child' : ThreadId)
    (kernel : KernelTid) :
    (s.threadCreate parent child kernel).1 = (s.threadCreate parent child' kernel).1 := by
  have hmode (template : Entry) : (s.process template).2.mode = .record :=
    (s.process_stays template).mode.trans h.mode_eq
  rw [threadCreate, threadCreate, h.isActive, if_neg Bool.false_ne_true, if_neg Bool.false_ne_true]
  split
  · rfl
  · have hmode₁ := hmode ⟨s.running, .threadCreate child kernel⟩
    have hmode₂ := hmode ⟨s.running, .threadCreate child' kernel⟩
    have hsame := process_congr h ⟨s.running, .threadCreate child kernel⟩
      ⟨s.running, .threadCreate child' kernel⟩ rfl rfl
    generalize s.process ⟨s.running, .threadCreate child kernel⟩ = answer at hmode₁ hsame ⊢
    generalize s.process ⟨s.running, .threadCreate child' kernel⟩ = answer' at hmode₂ hsame ⊢
    obtain ⟨result, s₁⟩ := answer
    obtain ⟨result', s₁'⟩ := answer'
    rcases hsame with ⟨e, rfl, rfl⟩ | ⟨rfl, rfl⟩
    · rfl
    · dsimp only at hmode₁ hmode₂ ⊢
      rw [hmode₁, hmode₂]

end Session

namespace Token

/-- Once the first turn has begun, recording looks at no slot of a thread that asks to run. -/
theorem acquire_blind {t : Token} (h : t.session.Records)
    (hstarted : t.session.schedule.turn ≠ .notStarted) (thread thread' : ThreadId)
    (callerClass : CallerClass) (answers : ExitProbe → Nat → Bool) :
    (t.acquire thread callerClass answers).1.isOk =
      (t.acquire thread' callerClass answers).1.isOk := by
  have hsame := Session.process_congr h (.acquire thread callerClass) (.acquire thread' callerClass)
    rfl rfl
  rw [acquire, acquire, Session.enter, Session.enter, Session.ask, Session.ask, h.mode_eq,
    started_iff.mpr hstarted]
  split
  · rfl
  · dsimp only
    generalize t.session.process (.acquire thread callerClass) = answer at hsame ⊢
    generalize t.session.process (.acquire thread' callerClass) = answer' at hsame ⊢
    obtain ⟨result, s₁⟩ := answer
    obtain ⟨result', s₁'⟩ := answer'
    rcases hsame with ⟨e, rfl, rfl⟩ | ⟨rfl, rfl⟩
    · rfl
    · rfl

end Token

def Outcome.failure? : Outcome → Option TokenError
  | .asked (.error e) | .gaveUp (.error e) => some e
  | .replied { result := .error e, .. } => some (.session e)
  | _ => none

theorem Outcome.failure?_eq_none {outcome : Outcome} (h : outcome.succeeds) :
    outcome.failure? = none := by
  obtain ⟨_ | answer⟩ | ⟨_ | result⟩ | ⟨_ | value, call, readsCounter⟩ := outcome
  · cases h
  · rfl
  · cases h
  · rfl
  · cases h
  · rfl

def firstFailure? : List Outcome → Option (Nat × TokenError)
  | [] => none
  | outcome :: rest =>
    match outcome.failure? with
    | some e => some (0, e)
    | none => (firstFailure? rest).map fun (index, e) => (index + 1, e)

theorem Channel.Writes.join_eq {c c' : Channel} {passages passages' : List Passage}
    (h : c.Writes passages c') (h' : c.Writes passages' c') :
    Passage.join passages = Passage.join passages' := by
  obtain ⟨w, w', rfl, rfl, hheld, _⟩ := h
  obtain ⟨_, _, hw, hw', hheld', _⟩ := h'
  cases hw
  cases hw'
  exact List.append_cancel_left (hheld.symm.trans hheld')

namespace Progress

/-- The program as in a script that can be replayed, but whatever the slots are. -/
def goOn? (g : Progress) (step : Step) : Option Progress :=
  match step with
  | .acquire thread _ _ =>
    if g.phase ≠ .running then some { g with phase := .running, runner := thread } else none
  | .release _ => if g.phase = .running then some { g with phase := .between } else none
  | .exitThread =>
    if g.phase = .running then
      some { g with phase := .between, filled := g.filled.filter (· ≠ g.runner) }
    else none
  | .drop | .call .close => none
  | .call (.clientCmdline live) => if g.phase = .between ∨ live.joined = "" then none else some g
  | .call call =>
    if g.phase = .between then none else some { g with filled := call.fills ++ g.filled }

def goThrough? (g : Progress) : List Step → Option Progress
  | [] => some g
  | step :: rest => (g.goOn? step).bind (·.goThrough? rest)

def creationFault? (g : Progress) (child : ThreadId) : Option SessionError :=
  if slotLimit ≤ child.index then some (.desync (.slotOutOfRange child.slot))
  else if !child.isValid then some (.invalidSlot child)
  else if child ∈ g.filled then some (.slotOccupied child)
  else none

def turnFault? : List Step → Option SessionError
  | .acquire thread _ _ :: _ =>
    if slotLimit ≤ thread.index then some (.desync (.slotOutOfRange thread.slot)) else none
  | _ => none

/-- What a replay finds wrong with the slots at a step. At the end of a turn it reads who is next. -/
def fault? (g : Progress) (step : Step) (rest : List Step) : Option SessionError :=
  match step with
  | .call (.threadCreate _ child _) => g.creationFault? child
  | .release _ | .exitThread => turnFault? rest
  | _ => none

def firstFault? (g : Progress) : List Step → Option (Nat × TokenError)
  | [] => none
  | step :: rest =>
    match g.fault? step rest with
    | some e => some (0, .session e)
    | none =>
      ((g.goOn? step).bind (·.firstFault? rest)).map fun (index, e) => (index + 1, e)

theorem creationFault?_eq_none {g : Progress} {child : ThreadId}
    (h : g.creationFault? child = none) :
    child.isValid ∧ child.index < slotLimit ∧ child ∉ g.filled := by
  rw [creationFault?] at h
  split at h
  · cases h
  · rename_i hslot
    split at h
    · cases h
    · rename_i hvalid
      split at h
      · cases h
      · rename_i hfree
        exact ⟨by simpa using hvalid, Nat.lt_of_not_le hslot, hfree⟩

theorem lt_of_turnFault?_eq_none {thread : ThreadId} {callerClass : CallerClass}
    {answers : ExitProbe → Nat → Bool} {rest : List Step}
    (h : turnFault? (.acquire thread callerClass answers :: rest) = none) :
    thread.index < slotLimit := by
  rw [turnFault?] at h
  split at h
  · cases h
  · rename_i hslot
    exact Nat.lt_of_not_le hslot

theorem next?_of_goOn? {g g' : Progress} {step : Step} {rest : List Step}
    (hgo : g.goOn? step = some g') (hfault : g.fault? step rest = none)
    (hturn : turnFault? [step] = none) : g.next? step = some g' := by
  cases step with
  | acquire thread callerClass answers =>
    obtain ⟨hphase, hg'⟩ := Option.ite_none_right_eq_some.mp hgo
    rw [next?, if_pos ⟨hphase, lt_of_turnFault?_eq_none hturn⟩]
    exact hg'
  | release tag => exact hgo
  | exitThread => exact hgo
  | drop => cases hgo
  | call call =>
    cases call with
    | clientCmdline live =>
      obtain ⟨hallowed, hg'⟩ := Option.ite_none_left_eq_some.mp hgo
      obtain ⟨hphase, hne⟩ := not_or.mp hallowed
      rw [next?, if_neg hphase, call?, if_neg hne]
      exact hg'
    | threadCreate parent child kernel =>
      obtain ⟨hphase, hg'⟩ := Option.ite_none_left_eq_some.mp hgo
      rw [next?, if_neg hphase, call?, if_pos (creationFault?_eq_none hfault)]
      exact hg'
    | close => cases hgo
    | _ => exact hgo

/-- How a program goes on. -/
inductive GoesOn (g : Progress) : Step → Progress → Prop
  | acquire {thread : ThreadId} {callerClass : CallerClass} {answers : ExitProbe → Nat → Bool}
      (phase : g.phase ≠ .running) :
      GoesOn g (.acquire thread callerClass answers) { g with phase := .running, runner := thread }
  | release {tag : ReleaseTag} (phase : g.phase = .running) :
      GoesOn g (.release tag) { g with phase := .between }
  | exitThread (phase : g.phase = .running) :
      GoesOn g .exitThread
        { g with phase := .between, filled := g.filled.filter (· ≠ g.runner) }
  | call {call : Call} (phase : g.phase ≠ .between) (notClose : call ≠ .close) :
      GoesOn g (.call call) { g with filled := call.fills ++ g.filled }

theorem goesOn_of_goOn? {g g' : Progress} {step : Step} (h : g.goOn? step = some g') :
    g.GoesOn step g' := by
  cases step with
  | acquire thread callerClass answers =>
    obtain ⟨hphase, hg'⟩ := Option.ite_none_right_eq_some.mp h
    cases hg'
    exact .acquire hphase
  | release tag =>
    obtain ⟨hphase, hg'⟩ := Option.ite_none_right_eq_some.mp h
    cases hg'
    exact .release hphase
  | exitThread =>
    obtain ⟨hphase, hg'⟩ := Option.ite_none_right_eq_some.mp h
    cases hg'
    exact .exitThread hphase
  | drop => cases h
  | call call =>
    cases call with
    | clientCmdline live =>
      obtain ⟨hallowed, hg'⟩ := Option.ite_none_left_eq_some.mp h
      cases hg'
      exact .call (not_or.mp hallowed).1 nofun
    | close => cases h
    | _ =>
      obtain ⟨hphase, hg'⟩ := Option.ite_none_left_eq_some.mp h
      cases hg'
      exact .call hphase nofun

theorem turnFault?_of_goOn? {g g' : Progress} {step : Step} {rest : List Step}
    (hgo : g.goOn? step = some g') (hfault : g.fault? step rest = none)
    (hphase : g'.phase = .between) : turnFault? rest = none := by
  cases goesOn_of_goOn? hgo with
  | acquire => cases hphase
  | release => exact hfault
  | exitThread => exact hfault
  | call hrunning => exact (hrunning hphase).elim

end Progress

namespace Session

section refusal

variable {s : Session} {p q : Passage} {tail : Bytes} {g : Progress} {thread next : ThreadId}

theorem settle_of_bad_slot {child : ThreadId} (h : slotLimit ≤ child.index) (thread : ThreadId)
    (kernel recorded : KernelTid) :
    Entry.settle ⟨thread, .threadCreate child kernel⟩ ⟨thread, .threadCreate child recorded⟩ =
      .error (.slotOutOfRange child.slot) := by
  simp [Entry.settle, Entry.kind, Body.kind, Body.settle, checkSlot, Nat.not_lt.mpr h, Except.map]

theorem settle_of_bad_turn (h : slotLimit ≤ next.index) (callerClass : CallerClass) :
    (Entry.acquire .nobody .unknown).settle (.acquire next callerClass) =
      .error (.slotOutOfRange next.slot) := by
  simp [Entry.settle, Entry.acquire, Entry.kind, Body.kind, Body.settle, checkSlot,
    Nat.not_lt.mpr h, Except.map]

theorem process_refused {filled : List ThreadId} (h : s.Faces (p.bytes ++ tail) filled)
    (hpayload : p.payload = []) {template : Entry} (hkind : template.kind.hasPayload = false)
    {reason : Desync} (hsettle : template.settle p.entry = .error reason) :
    ∃ s', s.process template = (.error (.desync reason), s') := by
  obtain ⟨offset, resolved, hs⟩ := h.channel
  rw [process, h.notClosed, if_neg Bool.false_ne_true, hs, Channel.process]
  dsimp only
  rw [Reader.resolve_passage hpayload hkind, hsettle]
  exact ⟨_, rfl⟩

theorem threadCreate_refused_outside {child : ThreadId} {recorded : KernelTid}
    (h : s.Faces (p.bytes ++ tail) g.filled)
    (hlogged : p.logged = (⟨s.running, .threadCreate child recorded⟩, []))
    (hslot : slotLimit ≤ child.index) (kernel : KernelTid) :
    (s.threadCreate s.running child kernel).1 = .error (.desync (.slotOutOfRange child.slot)) := by
  obtain ⟨hentry, hpayload⟩ := Prod.mk.inj hlogged
  have hsettle : Entry.settle ⟨s.running, .threadCreate child kernel⟩ p.entry =
      .error (.slotOutOfRange child.slot) := by
    rw [hentry]
    exact settle_of_bad_slot hslot _ _ _
  obtain ⟨s', hprocess⟩ := process_refused h hpayload rfl hsettle
  rw [threadCreate, h.replays.isActive, if_neg Bool.false_ne_true, checkRunning_self, hprocess]

theorem threadCreate_refused_inside {child : ThreadId} {recorded kernel : KernelTid}
    {e : SessionError} (h : s.Faces (p.bytes ++ tail) g.filled)
    (hlogged : p.logged = (⟨s.running, .threadCreate child recorded⟩, []))
    (hslot : child.index < slotLimit)
    (hcreate : s.identities.create child recorded kernel = .error e) :
    (s.threadCreate s.running child kernel).1 = .error e := by
  obtain ⟨channel, _, hchannel⟩ := s.process_channel ⟨s.running, .threadCreate child kernel⟩
  obtain ⟨s', hprocess, hreaches⟩ :=
    process_replays h hlogged rfl (.threadCreate child child kernel recorded hslot)
  rw [threadCreate, h.replays.isActive, if_neg Bool.false_ne_true, checkRunning_self]
  rw [hprocess] at hchannel ⊢
  have hsame : s' = { s with channel } := hchannel
  have hidentities : s'.identities = s.identities := by rw [hsame]
  dsimp only
  rw [hreaches.faces.replays.mode_eq]
  dsimp only
  rw [identify, hidentities, hcreate]

/-- A creation that was recorded with a slot out of order is refused. -/
theorem threadCreate_refused {child : ThreadId} {recorded : KernelTid} {e : SessionError}
    (h : s.Faces (p.bytes ++ tail) g.filled)
    (hfilled : ∀ slot ∈ g.filled, s.identities.occupies slot)
    (hlogged : p.logged = (⟨s.running, .threadCreate child recorded⟩, []))
    (hfault : g.creationFault? child = some e) (kernel : KernelTid) :
    (s.threadCreate s.running child kernel).1 = .error e := by
  rw [Progress.creationFault?] at hfault
  split at hfault
  · rename_i hslot
    cases hfault
    exact threadCreate_refused_outside h hlogged hslot kernel
  · rename_i hslot
    refine threadCreate_refused_inside h hlogged (Nat.lt_of_not_le hslot) ?_
    split at hfault
    · rename_i hvalid
      cases hfault
      exact IdentityTable.create_of_invalid (by simpa using hvalid) _ _ _
    · rename_i hvalid
      obtain ⟨hmem, herror⟩ := Option.ite_none_right_eq_some.mp hfault
      cases herror
      exact IdentityTable.create_of_occupied (by simpa using hvalid) (hfilled child hmem) _ _

theorem handOver_refused {filled : List ThreadId} (h : s.Faces (q.bytes ++ tail) filled)
    {callerClass : CallerClass} (hlogged : q.logged = (.acquire next callerClass, []))
    (hslot : slotLimit ≤ next.index) :
    s.handOver.1 = .error (.desync (.slotOutOfRange next.slot)) := by
  obtain ⟨offset, resolved, hs⟩ := h.channel
  obtain ⟨hentry, hpayload⟩ := Prod.mk.inj hlogged
  rw [handOver, hs]
  dsimp only
  rw [Reader.resolve_passage hpayload rfl, hentry, settle_of_bad_turn hslot]

theorem release_refused {filled : List ThreadId} {tag : ReleaseTag}
    (h : s.Faces (p.bytes ++ (q.bytes ++ tail)) filled)
    (hlogged : p.logged = (.release thread tag, [])) {callerClass : CallerClass}
    (hnext : q.logged = (.acquire next callerClass, [])) (hslot : slotLimit ≤ next.index) :
    ∃ s', s.release thread tag = (.error (.desync (.slotOutOfRange next.slot)), s') := by
  have hfaces : ({ s with running := .nobody } : Session).Faces
      (p.bytes ++ (q.bytes ++ tail)) filled := ⟨h.channel, h.notClosed, h.occupied⟩
  obtain ⟨s', hprocess, hreaches⟩ := process_replays hfaces hlogged rfl (.release tag)
  have hprocess : ({ s with running := .nobody } : Session).process (.release thread tag) =
      (.ok ⟨thread, .release tag⟩, s') := hprocess
  rw [release, hfaces.replays.isActive, if_neg Bool.false_ne_true, hprocess]
  exact ⟨_, Prod.ext (handOver_refused hreaches.faces hnext hslot) rfl⟩

theorem exitThread_refused {filled : List ThreadId} (hvalid : thread.isValid)
    (h : s.Faces (p.bytes ++ (q.bytes ++ tail)) filled)
    (hlogged : p.logged = (.release thread .exitThread, [])) {callerClass : CallerClass}
    (hnext : q.logged = (.acquire next callerClass, [])) (hslot : slotLimit ≤ next.index) :
    ∃ s', s.exitThread thread = (.error (.desync (.slotOutOfRange next.slot)), s') := by
  obtain ⟨s', hrelease⟩ := release_refused h hlogged hnext hslot
  rw [exitThread, hvalid, if_neg (by decide), hrelease]
  exact ⟨s', rfl⟩

end refusal

end Session

namespace Token

/-- What a step logs, by the thread that runs. The first acquisition is not logged. -/
inductive StepLogs (g : Progress) (running : ThreadId) (layout : Guest.RegisterLayout) :
    Step → List Passage → Prop
  | first {callerClass : CallerClass} {answers : ExitProbe → Nat → Bool} (phase : g.phase = .setup) :
      StepLogs g running layout (.acquire .main callerClass answers) []
  | acquire {thread : ThreadId} {callerClass : CallerClass} {answers : ExitProbe → Nat → Bool}
      {p : Passage} (phase : g.phase = .between)
      (logged : p.logged = (.acquire thread callerClass, [])) :
      StepLogs g running layout (.acquire thread callerClass answers) [p]
  | release {tag : ReleaseTag} {p : Passage} (phase : g.phase = .running)
      (logged : p.logged = (.release g.runner tag, [])) :
      StepLogs g running layout (.release tag) [p]
  | exitThread {p : Passage} (phase : g.phase = .running) (valid : g.runner.isValid)
      (logged : p.logged = (.release g.runner .exitThread, [])) :
      StepLogs g running layout .exitThread [p]
  | call {call : Call} {passages : List Passage} (phase : g.phase ≠ .between)
      (logs : call.Logs running layout passages) : StepLogs g running layout (.call call) passages

theorem Recorded.of_logsEnd {g g' : Progress} {t : Token} {tag : ReleaseTag} {s : Session}
    (h : Recorded g t) (hphase : g.phase = .running) (hphase' : g'.phase = .between)
    (hends : t.session.LogsEnd g.runner tag s) : Recorded g' { session := s } := by
  obtain ⟨p, _, _, w, _, hw, _⟩ := hends.channel
  refine ⟨⟨w, hw⟩, ?_, ?_⟩
  · rw [hphase']
    rfl
  · rw [hphase']
    refine iff_of_false ?_ nofun
    intro hturn
    cases hphase.symm.trans (h.started.mp (hends.turn.symm.trans hturn))

theorem step_logs {g g' : Progress} {t : Token} {step : Step} (hrecorded : Recorded g t)
    (hgo : g.goOn? step = some g') (hok : (t.step step).1.succeeds) :
    ∃ passages, StepLogs g t.session.running t.session.verifier.layout step passages ∧
      Recorded g' (t.step step).2 ∧
      t.session.channel.Writes passages (t.step step).2.session.channel := by
  cases Progress.goesOn_of_goOn? hgo with
  | @acquire thread callerClass answers hphase =>
    have hfree : t.holder = none := by
      rw [hrecorded.holder, if_neg hphase]
    obtain ⟨passages, hadmits, hlogged⟩ := acquire_admits hrecorded.records hfree hok
    have hrecorded' : Recorded { g with phase := .running, runner := thread }
        (t.acquire thread callerClass answers).2 := by
      obtain ⟨_, w, _, hw, _⟩ := hadmits.channel
      exact ⟨⟨w, hw⟩, hadmits.holder, iff_of_false hadmits.started nofun⟩
    rcases hlogged with ⟨hturn, rfl, rfl⟩ | ⟨hturn, p, rfl, hp⟩
    · exact ⟨[], .first (hrecorded.started.mp hturn), hrecorded', hadmits.channel⟩
    · have hbetween : g.phase = .between := by
        cases hg : g.phase with
        | setup => exact (hturn (hrecorded.started.mpr hg)).elim
        | running => exact (hphase hg).elim
        | between => rfl
      exact ⟨[p], .acquire hbetween hp, hrecorded', hadmits.channel⟩
  | release hphase =>
    have hholder : t.holder = some g.runner := by
      rw [hrecorded.holder, if_pos hphase]
    rw [step, release, giveUp_of_held hholder] at hok ⊢
    have hends := Session.release_logsEnd hrecorded.records (eq_ok_of_isOk hok)
    obtain ⟨p, hp, hwrites⟩ := hends.channel
    exact ⟨[p], .release hphase hp, hrecorded.of_logsEnd hphase rfl hends, hwrites⟩
  | exitThread hphase =>
    have hholder : t.holder = some g.runner := by
      rw [hrecorded.holder, if_pos hphase]
    rw [step, exitThread, giveUp_of_held hholder] at hok ⊢
    obtain ⟨hvalid, hends⟩ := Session.exitThread_logsEnd hrecorded.records (eq_ok_of_isOk hok)
    obtain ⟨p, hp, hwrites⟩ := hends.channel
    exact ⟨[p], .exitThread hphase hvalid hp, hrecorded.of_logsEnd hphase rfl hends, hwrites⟩
  | call hphase hopen =>
    obtain ⟨passages, hlogs, hwrites⟩ := Session.perform_logs hrecorded.records hopen hok
    refine ⟨passages, .call hphase hlogs, ⟨hwrites.records, hrecorded.holder, ?_⟩, hwrites.channel⟩
    have hstarted := hrecorded.started
    rw [← hwrites.schedule] at hstarted
    exact hstarted

theorem Answers.occupies {t t' : Token} {thread : ThreadId} {callerClass : CallerClass}
    {answer : Except TokenError Grant} (h : t.Answers thread callerClass answer t')
    (slot : ThreadId) : t'.session.identities.occupies slot = t.session.identities.occupies slot := by
  rw [Answers] at h
  split at h
  · split at h
    · exact h.2.occupies slot
    · rw [h.2]
  · split at h
    · rw [h.2]
    · split at h
      · rw [h.2]
      · exact h.2.occupies slot
  · rw [h.2]

theorem occupied_step {g g' : Progress} {t : Token} {recorded live : Step}
    (hgo : g.goOn? recorded = some g') (halike : recorded.Alike live) (h : t.session.Replays)
    (hholder : t.holder = if g.phase = .running then some g.runner else none)
    (hok : (t.step live).1.succeeds) (hfilled : ∀ slot ∈ g.filled, t.session.identities.occupies slot) :
    ∀ slot ∈ g'.filled, (t.step live).2.session.identities.occupies slot := by
  intro slot hslot
  have hgoes := Progress.goesOn_of_goOn? hgo
  cases halike with
  | acquire thread callerClass _ answers =>
    cases hgoes with
    | acquire hphase =>
      rw [if_neg hphase] at hholder
      exact ((acquire_answers h hholder thread callerClass answers).occupies slot).trans
        (hfilled slot hslot)
  | release tag =>
    cases hgoes with
    | release hphase =>
      rw [if_pos hphase] at hholder
      obtain ⟨channel, running, turn, _, _, hturns⟩ := t.session.release_turns g.runner tag
      rw [step, release, giveUp_of_held hholder]
      dsimp only
      rw [hturns]
      exact hfilled slot hslot
  | exitThread =>
    cases hgoes with
    | exitThread hphase =>
      rw [if_pos hphase] at hholder
      rw [step, exitThread, giveUp_of_held hholder] at hok ⊢
      have hactive : t.session.mode.isActive := by
        rw [h.mode_eq]
        rfl
      obtain ⟨hmem, hne⟩ := List.mem_filter.mp hslot
      rcases Session.exitThread_cases hactive g.runner with ⟨e, s', hexit, _⟩ | ⟨s', hturns, hexit⟩
      · rw [hexit] at hok
        cases hok
      · obtain ⟨channel, running, turn, _, _, rfl⟩ := hturns
        rw [hexit]
        have hother : g.runner ≠ slot := fun heq => of_decide_eq_true hne heq.symm
        refine (IdentityTable.occupies_clear _ g.runner slot).trans ?_
        rw [decide_eq_true hother, Bool.true_and]
        exact hfilled slot hmem
  | @call recorded live halike =>
    cases hgoes with
    | call =>
      have hstays := t.session.perform_stays live
      rcases List.mem_append.mp hslot with hnew | hold
      · cases halike with
        | threadCreate parent child kernel kernel' =>
          cases List.mem_singleton.mp hnew
          rcases hcall : t.session.threadCreate parent slot kernel' with ⟨result, s'⟩
          rw [step, Session.perform, hcall] at hok ⊢
          cases result with
          | error e => cases hok
          | ok shown =>
            obtain ⟨_, _, _, _, hinstalls⟩ := Session.threadCreate_ok h hcall
            exact IdentityTable.occupies_of_get? hinstalls.installed
        | _ => cases hnew
      · exact hstays.occupied slot (hfilled slot hold)

/-- The rest of a program that stands between two turns, and what it logs: nothing, or first of all who
is let run. -/
inductive TurnOpens : List Step → List Passage → Prop
  | ended : TurnOpens [] []
  | next {thread : ThreadId} {callerClass : CallerClass} {answers : ExitProbe → Nat → Bool}
      {rest : List Step} {p : Passage} {passages : List Passage}
      (logged : p.logged = (.acquire thread callerClass, [])) :
      TurnOpens (.acquire thread callerClass answers :: rest) (p :: passages)

theorem TurnOpens.opens {steps : List Step} {passages : List Passage} (h : TurnOpens steps passages)
    (hturn : Progress.turnFault? steps = none) : Opens (Passage.join passages) := by
  cases h with
  | ended => exact ⟨_, _, _, .ended⟩
  | next hlogged =>
    exact ⟨_, _, _, .next _ hlogged (Progress.lt_of_turnFault?_eq_none hturn)⟩

theorem StepLogs.turnOpens {g : Progress} {running : ThreadId} {layout : Guest.RegisterLayout}
    {step : Step} {passages : List Passage} (h : StepLogs g running layout step passages)
    (hphase : g.phase = .between) (rest : List Step) (later : List Passage) :
    TurnOpens (step :: rest) (passages ++ later) := by
  cases h with
  | first phase => cases hphase.symm.trans phase
  | acquire _ logged => exact .next logged
  | release phase => cases hphase.symm.trans phase
  | exitThread phase => cases hphase.symm.trans phase
  | call phase => exact (phase hphase).elim

theorem TurnOpens.ahead {g : Progress} {t t' : Token} {rest : List Step} {later : List Passage}
    {p : Passage} {unread : Bytes} {ahead : Nat} {e : SessionError} (h : TurnOpens rest later)
    (hfault : Progress.turnFault? rest = some e) (hphase : g.phase = .running)
    (hmirrors : Mirrors g (Passage.join ([p] ++ later)) t t' unread ahead) :
    ∃ (q : Passage) (next : ThreadId) (callerClass : CallerClass) (tail : Bytes),
      t'.session.Faces (p.bytes ++ (q.bytes ++ tail)) g.filled ∧
      q.logged = (.acquire next callerClass, []) ∧ slotLimit ≤ next.index ∧
      e = .desync (.slotOutOfRange next.slot) := by
  cases h with
  | ended => cases hfault
  | @next next callerClass _ _ q passages hlogged =>
    rw [Progress.turnFault?] at hfault
    split at hfault
    · rename_i hslot
      cases hfault
      obtain ⟨rfl, _⟩ := hmirrors.position.eq_of_ne (by rw [hphase]; exact nofun)
      exact ⟨q, next, callerClass, Passage.join passages, hmirrors.faces, hlogged, hslot, rfl⟩
    · cases hfault

theorem StepLogs.turnFault? {g : Progress} {running : ThreadId} {layout : Guest.RegisterLayout}
    {step : Step} {rest : List Step} {passages : List Passage}
    (h : StepLogs g running layout step passages)
    (hturn : g.phase = .between → Progress.turnFault? (step :: rest) = none) :
    Progress.turnFault? [step] = none := by
  cases h with
  | acquire phase => exact hturn phase
  | _ => rfl

/-- A replay that stands in front of a step at which a slot is out of order fails there. -/
theorem step_refused {g g' : Progress} {t t' : Token} {step live : Step} {rest : List Step}
    {passages later : List Passage} {unread : Bytes} {ahead : Nat} {e : SessionError}
    (hlogs : StepLogs g t.session.running t.session.verifier.layout step passages)
    (hholder : t.holder = if g.phase = .running then some g.runner else none)
    (hgo : g.goOn? step = some g') (hopens : g'.phase = .between → TurnOpens rest later)
    (hfault : g.fault? step rest = some e) (halike : step.Alike live)
    (hmirrors : Mirrors g (Passage.join (passages ++ later)) t t' unread ahead)
    (hfilled : ∀ slot ∈ g.filled, t'.session.identities.occupies slot) :
    (t'.step live).1.failure? = some (.session e) := by
  have hholder' : g.phase = .running → t'.holder = some g.runner := by
    intro hphase
    rw [hmirrors.holder, hholder, if_pos hphase]
  have hgoes := Progress.goesOn_of_goOn? hgo
  cases hlogs with
  | first => cases hfault
  | acquire => cases hfault
  | release phase logged =>
    cases hgoes
    cases halike with
    | release tag =>
      obtain ⟨q, next, callerClass, tail, hfaces, hnext, hslot, rfl⟩ :=
        (hopens rfl).ahead hfault phase hmirrors
      obtain ⟨s', hrelease⟩ := Session.release_refused hfaces logged hnext hslot
      rw [Token.step, release, giveUp_of_held (hholder' phase), hrelease]
      rfl
  | exitThread phase valid logged =>
    cases hgoes
    cases halike with
    | exitThread =>
      obtain ⟨q, next, callerClass, tail, hfaces, hnext, hslot, rfl⟩ :=
        (hopens rfl).ahead hfault phase hmirrors
      obtain ⟨s', hexit⟩ := Session.exitThread_refused valid hfaces logged hnext hslot
      rw [Token.step, exitThread, giveUp_of_held (hholder' phase), hexit]
      rfl
  | call phase logs =>
    obtain ⟨rfl, _⟩ := hmirrors.position.eq_of_ne phase
    cases logs with
    | @threadCreate child _ _ logged =>
      cases halike with
      | call halike =>
        cases halike with
        | threadCreate _ _ _ kernel =>
          have hfaces := hmirrors.faces
          rw [Passage.join_append, Passage.join_singleton] at hfaces
          rw [← hmirrors.running] at logged ⊢
          have hrefused := Session.threadCreate_refused hfaces hfilled logged hfault kernel
          rcases hcall : t'.session.threadCreate t'.session.running child kernel with ⟨result, s'⟩
          rw [hcall] at hrefused
          cases hrefused
          rw [Token.step, Session.perform, hcall]
          rfl
    | _ => cases hfault

/-- What a program logs while it is recorded, and where a replay of that fails. Between two turns the
replay has looked at the next turn already. -/
theorem run_faults {g final : Progress} {t : Token} {recorded : List Step}
    (hrecorded : Recorded g t) (hgo : g.goThrough? recorded = some final)
    (hok : (t.run recorded).1.all (·.succeeds)) :
    ∃ passages, t.session.channel.Writes passages (t.run recorded).2.session.channel ∧
      (g.phase = .between → TurnOpens recorded passages) ∧
      ∀ {live : List Step} {t' : Token} {unread : Bytes} {ahead : Nat},
        List.Forall₂ Step.Alike recorded live →
        Mirrors g (Passage.join passages) t t' unread ahead →
        (∀ slot ∈ g.filled, t'.session.identities.occupies slot) →
        (g.phase = .between → Progress.turnFault? recorded = none) →
        firstFailure? (t'.run live).1 = g.firstFault? recorded := by
  induction recorded generalizing g t with
  | nil =>
    cases hgo
    refine ⟨[], hrecorded.records.writes_nil.channel, fun _ => .ended, ?_⟩
    intro live t' unread ahead halike _ _ _
    cases halike
    rfl
  | cons step steps ih =>
    obtain ⟨g', hgo', hrest⟩ := Option.bind_eq_some_iff.mp hgo
    obtain ⟨hstep, hsteps⟩ := Bool.and_eq_true_iff.mp hok
    obtain ⟨passages, hlogs, hrecorded', hwrites⟩ := step_logs hrecorded hgo' hstep
    obtain ⟨later, hwrites', hopens, hfaults⟩ := ih hrecorded' hrest hsteps
    refine ⟨passages ++ later, hwrites.trans hwrites', fun hphase => hlogs.turnOpens hphase _ _, ?_⟩
    intro live t' unread ahead halike hmirrors hfilled hturn
    cases halike with
    | cons hlive hlives =>
      rw [run, firstFailure?, Progress.firstFault?]
      cases hfault : g.fault? step steps with
      | some e =>
        have hfails := step_refused hlogs hrecorded.holder hgo' hopens hfault hlive hmirrors hfilled
        dsimp only
        rw [hfails]
      | none =>
        have hnext := Progress.next?_of_goOn? hgo' hfault (hlogs.turnFault? hturn)
        have hturn' : g'.phase = .between → Progress.turnFault? steps = none :=
          Progress.turnFault?_of_goOn? hgo' hfault
        obtain ⟨passages', hsimulates⟩ := step_simulates hrecorded hnext hstep
        rw [Passage.join_append, hwrites.join_eq hsimulates.writes] at hmirrors
        obtain ⟨hreplayed, unread', ahead', hmirrors'⟩ :=
          hsimulates.follows hlive (fun hphase => (hopens hphase).opens (hturn' hphase)) hmirrors
        have hholder : t'.holder = if g.phase = .running then some g.runner else none :=
          hmirrors.holder.trans hrecorded.holder
        have hfilled' :=
          occupied_step hgo' hlive hmirrors.faces.replays hholder hreplayed.succeeds hfilled
        dsimp only
        rw [Outcome.failure?_eq_none hreplayed.succeeds, hgo',
          hfaults hlives hmirrors' hfilled' hturn']
        rfl

/-- Slots are looked at in a replay alone. When a program that was recorded in turns is replayed, the
first step that fails is the first one with a slot out of order, and it fails for that slot; if all
slots are in order, no step fails. A recording takes a creation whatever its slot is, and an acquisition
too once the first turn has begun. -/
theorem slots_checked_in_replay {sink : Sink} {config config' : Config} {layout : Guest.RegisterLayout}
    {recorded live : List Step} {final : Progress} {outcomes : List Outcome} {t : Token}
    (hfresh : sink.held = []) (hgo : ({} : Progress).goThrough? recorded = some final)
    (hrun : (recording sink config layout).run recorded = (outcomes, t))
    (hok : outcomes.all (·.succeeds)) (halike : List.Forall₂ Step.Alike recorded live) :
    firstFailure? ((replaying t.session.held config' layout).run live).1 =
        ({} : Progress).firstFault? recorded ∧
      ∀ steps, let t := ((recording sink config layout).run steps).2
        t.session.Records →
          (∀ parent child child' kernel, (t.session.threadCreate parent child kernel).1 =
            (t.session.threadCreate parent child' kernel).1) ∧
          (t.session.schedule.turn ≠ .notStarted → ∀ thread thread' callerClass answers,
            (t.acquire thread callerClass answers).1.isOk =
              (t.acquire thread' callerClass answers).1.isOk) := by
  have hrecorded : Recorded {} (recording sink config layout) :=
    ⟨⟨_, rfl⟩, rfl, iff_of_true rfl rfl⟩
  have houtcomes : ((recording sink config layout).run recorded).1 = outcomes :=
    congrArg Prod.fst hrun
  have hlast : ((recording sink config layout).run recorded).2 = t := congrArg Prod.snd hrun
  rw [← houtcomes] at hok
  obtain ⟨passages, hwrites, _, hfaults⟩ := run_faults hrecorded hgo hok
  rw [hlast] at hwrites
  have hheld : t.session.held = Passage.join passages := by
    rw [held_of_writes hwrites]
    change sink.held ++ Passage.join passages = Passage.join passages
    rw [hfresh, List.nil_append]
  have hstart : Mirrors {} (Passage.join passages) (recording sink config layout)
      (replaying (Passage.join passages) config' layout) (Passage.join passages) 0 := by
    refine ⟨.setup _ rfl rfl, ⟨⟨0, 0, rfl⟩, rfl, ?_⟩, rfl, rfl, rfl, rfl⟩
    intro slot hslot
    cases (IdentityTable.occupies_empty slot).symm.trans hslot
  constructor
  · rw [hheld]
    exact hfaults halike hstart nofun nofun
  · intro steps t h
    exact ⟨Session.threadCreate_blind h, acquire_blind h⟩

def crowdedScript : List Step :=
  [.acquire .main .normal fun _ _ => true, .call (.threadCreate .main ⟨2⟩ ⟨77⟩),
    .call (.threadCreate .main ⟨2⟩ ⟨78⟩), .release (.ofBytes [1])]

theorem slots_checked_in_replay_crowded :
    ((recording {} {} .x86).run crowdedScript).1.all (·.succeeds) ∧
      firstFailure? ((replaying ((recording {} {} .x86).run crowdedScript).2.session.held {}
        .x86).run crowdedScript).1 = some (2, .session (.slotOccupied ⟨2⟩)) := by
  have hok : ((recording {} {} .x86).run crowdedScript).1.all (·.succeeds) := by decide +kernel
  have hgo : ({} : Progress).goThrough? crowdedScript =
      some { phase := .between, runner := .main, filled := [⟨2⟩, ⟨2⟩] } := by decide +kernel
  have halike : List.Forall₂ Step.Alike crowdedScript crowdedScript :=
    .cons (.acquire _ _ _ _) <| .cons (.call (.threadCreate _ _ _ _)) <|
      .cons (.call (.threadCreate _ _ _ _)) <| .cons (.release _) .nil
  have hfault : ({} : Progress).firstFault? crowdedScript =
      some (2, .session (.slotOccupied ⟨2⟩)) := by decide +kernel
  obtain ⟨hfails, _⟩ := slots_checked_in_replay rfl hgo rfl hok halike
  exact ⟨hok, hfails.trans hfault⟩

def recordedAndReplayed (turn : List Step) : Bool × Option (Nat × TokenError) :=
  let script := .acquire .main .normal (fun _ _ => true) :: turn
  let (outcomes, t) := (recording {} {} .x86).run script
  (outcomes.all (·.succeeds),
    firstFailure? ((replaying t.session.held {} .x86).run script).1)

/-- Programs that are recorded without an error and cannot be replayed: a thread is made outside the
tables, or in the slot of no thread, or in a filled slot, or one from outside the tables is let run. -/
theorem misplaced_recorded :
    recordedAndReplayed [.call (.threadCreate .main ⟨500⟩ ⟨5⟩)] =
        (true, some (1, .session (.desync (.slotOutOfRange 500)))) ∧
      recordedAndReplayed [.call (.threadCreate .main ⟨0⟩ ⟨5⟩)] =
        (true, some (1, .session (.invalidSlot ⟨0⟩))) ∧
      recordedAndReplayed
          [.call (.threadCreate .main ⟨2⟩ ⟨5⟩), .call (.threadCreate .main ⟨2⟩ ⟨6⟩)] =
        (true, some (2, .session (.slotOccupied ⟨2⟩))) ∧
      recordedAndReplayed
          [.release (.ofBytes [1]), .acquire ⟨500⟩ .normal fun _ _ => true] =
        (true, some (1, .session (.desync (.slotOutOfRange 500)))) := by
  refine ⟨?_, ?_, ?_, ?_⟩
  · decide +kernel
  · decide +kernel
  · decide +kernel
  · decide +kernel

end Token

end Retrace
