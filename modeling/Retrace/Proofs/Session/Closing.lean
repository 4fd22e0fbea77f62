import Retrace.Proofs.Log.Appending
import Retrace.Proofs.Session.Transparency

namespace Retrace

open Log

namespace Channel

theorem eq_inactive {channel : Channel} (h : channel.mode = .inactive) :
    channel = .inactive := by
  cases channel with
  | inactive => rfl
  | record writer => cases h
  | replay reader => cases h

def syncFailure? : Channel → Option LogError
  | .record writer => (writer.sink.flushFailure <|> writer.sink.syncFailure).map .io
  | .inactive | .replay _ => none

end Channel

namespace Session

def reopen (s : Session) (channel : Channel) : Session := { s with channel, summary := none }

/-- At most who runs and who is known are other ones, and of whom it was reported that they do not
stop. -/
structure Frozen (s s' : Session) : Prop where
  config : s'.config = s.config
  channel : s'.channel = s.channel
  summary : s'.summary = s.summary
  divergence : s'.divergence = s.divergence
  warnings : ∃ waits : List ThreadId, s'.warnings = s.warnings ++ waits.map .stillExiting

theorem Frozen.of_running (s : Session) (running : ThreadId) (schedule : Schedule)
    (identities : IdentityTable) : s.Frozen { s with running, schedule, identities } :=
  ⟨rfl, rfl, rfl, rfl, [], (List.append_nil _).symm⟩

theorem Frozen.refl (s : Session) : s.Frozen s := .of_running s s.running s.schedule s.identities

theorem Frozen.trans {s s' s'' : Session} (h : s.Frozen s') (h' : s'.Frozen s'') : s.Frozen s'' := by
  obtain ⟨waits, hwaits⟩ := h.warnings
  obtain ⟨waits', hwaits'⟩ := h'.warnings
  refine ⟨h'.config.trans h.config, h'.channel.trans h.channel, h'.summary.trans h.summary,
    h'.divergence.trans h.divergence, waits ++ waits', ?_⟩
  rw [hwaits', hwaits, List.map_append, List.append_assoc]

theorem Frozen.mode {s s' : Session} (h : s.Frozen s') : s'.mode = s.mode :=
  congrArg Channel.mode h.channel

theorem Frozen.isClosed {s s' : Session} (h : s.Frozen s') : s'.isClosed = s.isClosed :=
  congrArg Option.isSome h.summary

theorem awaitExit_frozen (s : Session) (answers : ExitProbe → Nat → Bool) :
    s.Frozen (s.awaitExit answers).2 := by
  have hnothing : s.warnings = s.warnings ++ ([] : List ThreadId).map .stillExiting :=
    (List.append_nil _).symm
  rw [awaitExit]
  rcases s.schedule.takeExiting with ⟨exiting, schedule⟩
  cases exiting with
  | none => exact ⟨rfl, rfl, rfl, rfl, [], hnothing⟩
  | some thread =>
    dsimp only
    split
    · exact ⟨rfl, rfl, rfl, rfl, [], hnothing⟩
    · rcases s.identities.takeProbe thread with ⟨probe, identities⟩
      cases probe with
      | none => exact ⟨rfl, rfl, rfl, rfl, [], hnothing⟩
      | some probe =>
        dsimp only
        split
        · exact ⟨rfl, rfl, rfl, rfl, [], hnothing⟩
        · exact ⟨rfl, rfl, rfl, rfl, [thread], rfl⟩

/-- What is done with a closed session is done alike with any log of the mode. If it is not refused,
it would count nothing with an open log either. -/
structure Sealed {α : Type} (s : Session) (Refused : α → Prop) (f : Session → α × Session) : Prop where
  frozen : s.Frozen (f s).2
  detached : ∀ channel, channel.mode = s.mode → f (s.relog channel) = ((f s).1, (f s).2.relog channel)
  final : Refused (f s).1 ∨ ∀ channel, channel.mode = s.mode →
    (f (s.reopen channel)).2.channel.entries = channel.entries

/-- That a call is told that the session is closed, and keeps what it brought. -/
def RefusesCall (call : Call) (reply : Reply) : Prop :=
  reply.result = .error .closed ∧ reply.call = call

theorem checkRunning_congr {s s' : Session} (h : s'.running = s.running) (caller : ThreadId) :
    s'.checkRunning caller = s.checkRunning caller := by
  rw [checkRunning, checkRunning, h]

theorem process_of_closed (s : Session) (h : s.isClosed) (template : Entry) :
    s.process template = (.error .closed, s) := by
  rw [process, if_pos h]

theorem processData_of_closed (s : Session) (h : s.isClosed) (template : Entry) (buffer : Bytes) :
    s.processData template buffer = (.error .closed, buffer, s) := by
  rw [processData, if_pos h]

section

variable {s : Session} {call : Call}

theorem not_passive (hactive : s.mode.isActive) {s' : Session} (hmode : s'.mode = s.mode) :
    ¬(!s'.mode.isActive) = true := by
  rw [hmode, hactive]
  exact Bool.false_ne_true

theorem active_relog (hactive : s.mode.isActive) {channel : Channel} (hmode : channel.mode = s.mode) :
    (s.relog channel).mode.isActive := by
  change channel.mode.isActive
  rw [hmode]
  exact hactive

theorem inactive_of_not_active (h : ¬s.mode.isActive) : s.mode = .inactive := by
  simpa [Mode.isActive] using h

theorem relog_active (hactive : s.mode.isActive) {channel : Channel} (hmode : channel.mode = s.mode) :
    ¬(!(s.relog channel).mode.isActive) = true :=
  not_passive hactive hmode

theorem Sealed.refuses {α : Type} {Refused : α → Prop} {f : Session → α × Session} {answer : α}
    (running : ThreadId) (hrefused : Refused answer)
    (h : ∀ channel, channel.mode = s.mode →
      f (s.relog channel) = (answer, { s.relog channel with running })) :
    s.Sealed Refused f := by
  have hs : f s = (answer, { s with running }) := h s.channel rfl
  refine ⟨?_, ?_, ?_⟩
  · rw [hs]
    exact .of_running s running s.schedule s.identities
  · rw [hs]
    exact h
  · rw [hs]
    exact .inl hrefused

theorem Sealed.passes {α : Type} {Refused : α → Prop} {f : Session → α × Session} (answer : α)
    (h : ∀ s' : Session, s'.mode = s.mode → s'.running = s.running → s'.identities = s.identities →
      f s' = (answer, s')) :
    s.Sealed Refused f := by
  have hs : f s = (answer, s) := h s rfl rfl rfl
  refine ⟨?_, ?_, .inr ?_⟩
  · rw [hs]
    exact .refl s
  · intro channel hmode
    rw [hs]
    exact h (s.relog channel) hmode rfl rfl
  · intro channel hmode
    rw [h (s.reopen channel) hmode rfl rfl]
    rfl

theorem refusesCall_sealed (readsCounter : Bool)
    (h : ∀ channel, channel.mode = s.mode → (s.relog channel).perform call =
      ({ result := .error .closed, call, readsCounter }, s.relog channel)) :
    s.Sealed (RefusesCall call) (·.perform call) :=
  .refuses s.running ⟨rfl, rfl⟩ h

theorem wantsOpen_sealed (hclosed : s.isClosed) (hwants : call.wantsOpen) :
    s.Sealed (RefusesCall call) (·.perform call) :=
  refusesCall_sealed false fun channel _ => perform_of_wantsOpen (s := s.relog channel) hclosed hwants

theorem threadCreate_sealed (hclosed : s.isClosed) (hactive : s.mode.isActive)
    (parent child : ThreadId) (kernel : KernelTid) :
    s.Sealed (RefusesCall (.threadCreate parent child kernel))
      (·.perform (.threadCreate parent child kernel)) := by
  cases hcheck : s.checkRunning parent with
  | error e =>
    refine .passes { result := .error e, call := .threadCreate parent child kernel } ?_
    intro s' hmode hrunning _
    rw [perform, threadCreate, if_neg (not_passive hactive hmode), checkRunning_congr hrunning, hcheck]
    rfl
  | ok =>
    apply refusesCall_sealed false
    intro channel hmode
    have hcheck : (s.relog channel).checkRunning parent = .ok () := hcheck
    rw [perform, threadCreate, if_neg (relog_active hactive hmode), hcheck]
    dsimp only
    rw [(s.relog channel).process_of_closed hclosed]
    rfl

theorem syscallArgs_sealed (hclosed : s.isClosed) (hactive : s.mode.isActive) (thread : ThreadId)
    (sysno : UInt32) (registers : Bytes) :
    s.Sealed (RefusesCall (.syscallArgs thread sysno registers))
      (·.perform (.syscallArgs thread sysno registers)) := by
  cases hcheck : s.checkRunning thread with
  | error e =>
    refine .passes { result := .error e, call := .syscallArgs thread sysno registers } ?_
    intro s' hmode hrunning _
    rw [perform, syscallArgs, if_neg (not_passive hactive hmode), checkRunning_congr hrunning, hcheck]
    rfl
  | ok =>
    apply refusesCall_sealed false
    intro channel hmode
    have hcheck : (s.relog channel).checkRunning thread = .ok () := hcheck
    rw [perform, syscallArgs, if_neg (relog_active hactive hmode), hcheck]
    dsimp only
    rw [(s.relog channel).process_of_closed hclosed]
    rfl

theorem syscallMem_sealed (hclosed : s.isClosed) (hactive : s.mode.isActive)
    (regions : List Guest.Memory) :
    s.Sealed (RefusesCall (.syscallMem regions)) (·.perform (.syscallMem regions)) := by
  cases regions with
  | nil =>
    refine .passes { result := .ok .done, call := .syscallMem [] } ?_
    intro s' hmode _ _
    rw [perform, syscallMem, if_neg (not_passive hactive hmode)]
    rfl
  | cons region rest =>
    apply refusesCall_sealed false
    intro channel hmode
    rw [perform, syscallMem, if_neg (relog_active hactive hmode), processRegions,
      (s.relog channel).processData_of_closed hclosed]
    rfl

/-- The size of the stack that is sent through the log first, if it can be told. -/
def sentSize? (s : Session) (stackTop initialSp : UInt64) : Option UInt32 :=
  if s.mode.isRecord then stackSize? stackTop initialSp else some 0

theorem initClientStack_sealed (hclosed : s.isClosed) (hactive : s.mode.isActive) (stackTop : UInt64)
    (image : Guest.StackImage) (memory : Guest.Memory) :
    s.Sealed (RefusesCall (.initClientStack stackTop image memory))
      (·.perform (.initClientStack stackTop image memory)) := by
  have hsent (s' : Session) (hmode : s'.mode = s.mode) :
      s'.sentSize? stackTop image.initialSp = s.sentSize? stackTop image.initialSp := by
    rw [sentSize?, sentSize?, hmode]
  -- A stack without a size, or without a top, is refused before the log is looked at.
  by_cases hinvalid : ∀ size, s.sentSize? stackTop image.initialSp = some size → stackTop = 0
  · refine .passes {
      result := .error (.invalidStack stackTop image.initialSp)
      call := .initClientStack stackTop image memory } ?_
    intro s' hmode _ _
    rw [← hsent s' hmode, sentSize?] at hinvalid
    rw [perform, initClientStack, if_neg (not_passive hactive hmode)]
    dsimp only
    cases hsize : (if s'.mode.isRecord then stackSize? stackTop image.initialSp else some 0) with
    | none => rfl
    | some size =>
      dsimp only
      rw [if_pos (hinvalid size hsize)]
      rfl
  · push Not at hinvalid
    obtain ⟨size, hsize, htop⟩ := hinvalid
    apply refusesCall_sealed false
    intro channel hmode
    have hsame : (s.relog channel).sentSize? stackTop image.initialSp = some size :=
      (hsent (s.relog channel) hmode).trans hsize
    rw [sentSize?] at hsame
    rw [perform, initClientStack, if_neg (relog_active hactive hmode)]
    dsimp only
    rw [hsame]
    dsimp only
    rw [if_neg htop, (s.relog channel).process_of_closed hclosed]
    rfl

theorem registerProbe_sealed (s : Session) (slot : ThreadId) (probe : ExitProbe) :
    s.Sealed (RefusesCall (.registerProbe slot probe)) (·.perform (.registerProbe slot probe)) := by
  cases hregister : s.identities.registerProbe slot probe with
  | ok identities =>
    have hperform (s' : Session) (h : s'.identities = s.identities) :
        s'.perform (.registerProbe slot probe) =
          ({ result := .ok .done, call := .registerProbe slot probe }, { s' with identities }) := by
      rw [perform, registerProbe, h, hregister]
      rfl
    refine ⟨?_, ?_, .inr ?_⟩
    · rw [hperform s rfl]
      exact .of_running s s.running s.schedule identities
    · intro channel _
      rw [hperform s rfl]
      exact hperform (s.relog channel) rfl
    · intro channel _
      exact congrArg (·.2.channel.entries) (hperform (s.reopen channel) rfl)
  | error e =>
    refine .passes { result := .error e, call := .registerProbe slot probe } ?_
    intro s' _ _ hsame
    rw [perform, registerProbe, hsame, hregister]
    rfl

theorem finish_eq (s : Session) :
    ∃ channel, channel.mode = s.mode ∧ channel.entries = s.channel.entries ∧
      s.finish = {
        s with
        channel
        warnings := s.warnings ++ s.channel.syncFailure?.toList.map .finalSync } := by
  cases hchannel : s.channel with
  | inactive =>
    refine ⟨s.channel, rfl, by rw [hchannel], ?_⟩
    rw [finish, hchannel]
    simp [Channel.syncFailure?, ← hchannel]
  | record writer =>
    refine ⟨.record writer.barrier.2, by rw [mode, hchannel]; rfl, writer.barrier_same.2.1, ?_⟩
    rw [finish, hchannel]
    cases hflush : writer.sink.flushFailure with
    | some reason => simp [Writer.barrier, Sink.flush, Channel.syncFailure?, report, hflush]
    | none =>
      cases hsync : writer.sink.syncFailure <;>
        simp [Writer.barrier, Sink.flush, Sink.sync, Channel.syncFailure?, report, Except.mapError,
          hflush, hsync]
  | replay reader =>
    refine ⟨s.channel, rfl, by rw [hchannel], ?_⟩
    rw [finish, hchannel]
    simp [Channel.syncFailure?, ← hchannel]

theorem entries_finish (s : Session) : s.finish.channel.entries = s.channel.entries := by
  obtain ⟨channel, _, hentries, hfinish⟩ := s.finish_eq
  rw [hfinish]
  exact hentries

theorem close_of_open (hopen : s.isClosed = false) {told : Summary} {s' : Session}
    (hclose : s.close = (told, s')) :
    told = s.tally ∧ s'.summary = some told ∧ s'.divergence = s.divergence ∧
      s'.warnings = s.warnings ++ s.channel.syncFailure?.toList.map .finalSync := by
  have hsummary : s.summary = none := Option.not_isSome_iff_eq_none.mp (Bool.eq_false_iff.mp hopen)
  obtain ⟨channel, hmode, hentries, hfinish⟩ := s.finish_eq
  have htally : s.finish.tally = s.tally := by
    rw [hfinish, tally, tally]
    exact congr_arg₂ (Summary.mk · · s.divergence) hmode hentries
  rw [close, hsummary] at hclose
  dsimp only at hclose
  rw [htally, hfinish] at hclose
  obtain ⟨rfl, rfl⟩ := Prod.mk.inj hclose
  exact ⟨rfl, rfl, rfl, rfl⟩

theorem close_sealed (hclosed : s.isClosed) :
    s.Sealed (RefusesCall .close) (·.perform .close) := by
  obtain ⟨told, htold⟩ := Option.isSome_iff_exists.mp hclosed
  have hclose (s' : Session) (h : s'.summary = some told) :
      s'.perform .close = ({ result := .ok (.summary told), call := .close }, s') := by
    rw [perform, close, h]
  refine ⟨?_, ?_, .inr fun channel _ => (s.reopen channel).entries_finish⟩
  · rw [hclose s htold]
    exact .refl s
  · intro channel _
    rw [hclose s htold]
    exact hclose (s.relog channel) htold

theorem Sealed.of_inactive {α : Type} {Refused : α → Prop} {f : Session → α × Session}
    (hmode : s.mode = .inactive) (hfrozen : s.Frozen (f s).2)
    (hstays : ∀ s' : Session, s'.channel = .inactive → (f s').2.channel = .inactive) :
    s.Sealed Refused f := by
  have hchannel : s.channel = .inactive := Channel.eq_inactive hmode
  refine ⟨hfrozen, ?_, .inr ?_⟩
  · intro channel hsame
    have hsame : channel = s.channel := by rw [Channel.eq_inactive (hsame.trans hmode), hchannel]
    have hkept : (f s).2.relog channel = (f s).2 := by rw [relog, hsame, ← hfrozen.channel]
    have hrelog : s.relog channel = s := by rw [relog, hsame]
    rw [hrelog, hkept]
  · intro channel hsame
    have hnone : channel = .inactive := Channel.eq_inactive (hsame.trans hmode)
    rw [hstays (s.reopen channel) hnone, hnone]

theorem inactive_sealed (hclosed : s.isClosed) (hmode : s.mode = .inactive) (call : Call) :
    s.Sealed (RefusesCall call) (·.perform call) := by
  have hstays (s' : Session) (h : s'.channel = .inactive) : (s'.perform call).2.channel = .inactive :=
    Channel.eq_inactive ((s'.perform_stays call).mode.trans (congrArg Channel.mode h))
  cases call with
  | registerProbe slot probe => exact registerProbe_sealed s slot probe
  | close => exact close_sealed hclosed
  | _ =>
    refine .of_inactive hmode ?_ hstays
    rw [perform_snd_of_inactive (Channel.eq_inactive hmode)]
    · exact .refl s
    · rfl
    · exact Call.noConfusion

theorem perform_sealed (hclosed : s.isClosed) (call : Call) :
    s.Sealed (RefusesCall call) (·.perform call) := by
  by_cases hactive : s.mode.isActive
  · have hprocess (channel : Channel) (template : Entry) :=
      (s.relog channel).process_of_closed hclosed template
    cases call with
    | clientCmdline live => exact wantsOpen_sealed hclosed rfl
    | threadCreate parent child kernel => exact threadCreate_sealed hclosed hactive parent child kernel
    | syscallArgs thread sysno registers =>
      exact syscallArgs_sealed hclosed hactive thread sysno registers
    | syscallRet value =>
      apply refusesCall_sealed false
      intro channel hmode
      rw [perform, syscallRet, if_neg (relog_active hactive hmode), hprocess]
      rfl
    | syscallMem regions => exact syscallMem_sealed hclosed hactive regions
    | dispatchCounter counter before =>
      apply refusesCall_sealed false
      intro channel hmode
      rw [perform, dispatchCounter, if_neg (relog_active hactive hmode), hprocess]
      rfl
    | initMemLayout vstart stackTop =>
      apply refusesCall_sealed false
      intro channel hmode
      rw [perform, initMemLayout, if_neg (relog_active hactive hmode), hprocess]
      rfl
    | initClientStack stackTop image memory =>
      exact initClientStack_sealed hclosed hactive stackTop image memory
    | initGuestState registers =>
      apply refusesCall_sealed false
      intro channel hmode
      have hsnapshot : (s.relog channel).snapshot registers = (.error .closed, s.relog channel) := by
        rw [snapshot]
        exact if_pos hclosed
      rw [perform, initGuestState, if_neg (relog_active hactive hmode), hsnapshot]
      rfl
    | snapshot registers => exact wantsOpen_sealed hclosed rfl
    | timestamp counter =>
      apply refusesCall_sealed s.readsCounter
      intro channel hmode
      have hreads : (s.relog channel).readsCounter = s.readsCounter :=
        congrArg (fun mode => !Mode.isReplay mode) hmode
      rw [perform, timestamp, if_neg (relog_active hactive hmode), hprocess, hreads]
      rfl
    | registerProbe slot probe => exact registerProbe_sealed s slot probe
    | close => exact close_sealed hclosed
  · exact inactive_sealed hclosed (inactive_of_not_active hactive) call

def RefusesEnd (result : Except SessionError Unit) : Prop := result = .error .closed

theorem release_of_closed (hclosed : s.isClosed) (hactive : s.mode.isActive) (thread : ThreadId)
    (tag : ReleaseTag) : s.release thread tag = (.error .closed, { s with running := .nobody }) := by
  have hfree : ({ s with running := .nobody } : Session).isClosed := hclosed
  have hrunning : ¬(!({ s with running := .nobody } : Session).mode.isActive) = true :=
    not_passive hactive rfl
  rw [release, if_neg hrunning, process_of_closed _ hfree]

theorem release_sealed (hclosed : s.isClosed) (thread : ThreadId) (tag : ReleaseTag) :
    s.Sealed RefusesEnd (·.release thread tag) := by
  by_cases hactive : s.mode.isActive
  · refine .refuses .nobody rfl ?_
    intro channel hmode
    exact (s.relog channel).release_of_closed hclosed (active_relog hactive hmode) thread tag
  · have hmode := inactive_of_not_active hactive
    apply Sealed.of_inactive hmode
    · rw [release_of_inactive (Channel.eq_inactive hmode)]
      exact .of_running s .nobody s.schedule s.identities
    · intro s' h
      rw [release_of_inactive h]
      exact h

theorem exitThread_sealed (hclosed : s.isClosed) (thread : ThreadId) :
    s.Sealed RefusesEnd (·.exitThread thread) := by
  by_cases hvalid : thread.isValid
  · by_cases hactive : s.mode.isActive
    · refine .refuses .nobody rfl ?_
      intro channel hmode
      rw [exitThread, hvalid, if_neg (by decide),
        (s.relog channel).release_of_closed hclosed (active_relog hactive hmode)]
    · have hmode := inactive_of_not_active hactive
      apply Sealed.of_inactive hmode
      · rw [exitThread_of_inactive (Channel.eq_inactive hmode) hvalid]
        exact .of_running s .nobody s.schedule s.identities
      · intro s' h
        rw [exitThread_of_inactive h hvalid]
        exact h
  · refine .passes (.error (.invalidSlot thread)) ?_
    intro s' _ _ _
    rw [exitThread, if_pos (by rw [Bool.eq_false_iff.mpr hvalid]; rfl)]

/-- What a thread is told that asks to run, before anything is done about it. Recording tells it from
the log, once a thread has run. -/
theorem ask_of_closed (hclosed : s.isClosed) (thread : ThreadId) (callerClass : CallerClass) :
    (∀ channel, channel.mode = s.mode →
      (s.relog channel).ask thread callerClass = (.error .closed, s.relog channel)) ∨
    ∃ answer, ∀ s' : Session, s'.mode = s.mode → s'.schedule = s.schedule →
      s'.ask thread callerClass = (answer, s') := by
  cases hmode : s.mode with
  | inactive =>
    right
    use .ok .admitted
    intro s' hsame _
    rw [ask, hsame]
  | record =>
    cases hstarted : s.schedule.started with
    | true =>
      left
      intro channel hsame
      have hrecord : (s.relog channel).mode = .record := hsame
      have hstarted : (s.relog channel).schedule.started = true := hstarted
      rw [ask, hrecord, hstarted]
      dsimp only
      rw [(s.relog channel).process_of_closed hclosed]
    | false =>
      right
      use s.schedule.answer thread callerClass
      intro s' hsame hschedule
      rw [ask, hsame, hschedule, hstarted]
  | replay =>
    right
    use s.schedule.answer thread callerClass
    intro s' hsame hschedule
    rw [ask, hsame, hschedule]

end

end Session

/-- That a step is told that the session is closed, and a call keeps what it brought. -/
def Step.Refused (step : Step) (outcome : Outcome) : Prop :=
  match step, outcome with
  | .acquire .., .asked answer => answer = .error (.session .closed)
  | .release _, .gaveUp result | .exitThread, .gaveUp result => result = .error (.session .closed)
  | .call brought, .replied reply => Session.RefusesCall brought reply
  | _, _ => False

namespace Token

def relog (t : Token) (channel : Channel) : Token := { t with session := t.session.relog channel }

def reopen (t : Token) (channel : Channel) : Token := { t with session := t.session.reopen channel }

/-- A step would append or resolve an entry of some log, if the session were open. -/
def WouldLog (t : Token) (step : Step) : Prop :=
  ∃ channel, channel.mode = t.session.mode ∧
    ((t.reopen channel).step step).2.session.channel.entries ≠ channel.entries

/-- A step of a closed session is the same with any log of the mode, and refused if it would log
anything. -/
structure Sealed (t : Token) (step : Step) : Prop where
  frozen : t.session.Frozen (t.step step).2.session
  detached : ∀ channel, channel.mode = t.session.mode →
    (t.relog channel).step step = ((t.step step).1, (t.step step).2.relog channel)
  final : t.WouldLog step → step.Refused (t.step step).1

theorem Sealed.of_session {t : Token} {step : Step} {α : Type} {Refused : α → Prop}
    {f : Session → α × Session} (out : α → Outcome) (holder : Option ThreadId)
    (hstep : ∀ t' : Token, t'.holder = t.holder → t'.session.mode = t.session.mode →
      t'.session.schedule = t.session.schedule →
      t'.step step = (out (f t'.session).1, { session := (f t'.session).2, holder }))
    (hrefused : ∀ answer, Refused answer → step.Refused (out answer))
    (h : t.session.Sealed Refused f) : t.Sealed step := by
  have ht := hstep t rfl rfl rfl
  refine ⟨?_, ?_, ?_⟩
  · rw [ht]
    exact h.frozen
  · intro channel hmode
    have hf : f (t.relog channel).session = _ := h.detached channel hmode
    rw [ht, hstep (t.relog channel) rfl hmode rfl, hf]
    rfl
  · rintro ⟨channel, hmode, hlogs⟩
    rw [ht]
    rcases h.final with hfinal | hunlogged
    · exact hrefused _ hfinal
    · rw [hstep (t.reopen channel) rfl hmode rfl] at hlogs
      exact (hlogs (hunlogged channel hmode)).elim

theorem Sealed.of_answer {t : Token} {step : Step} (outcome : Outcome)
    (hstep : ∀ t' : Token, t'.holder = t.holder → t'.session.mode = t.session.mode →
      t'.session.schedule = t.session.schedule → t'.step step = (outcome, t')) : t.Sealed step := by
  refine .of_session id t.holder ?_ (fun _ => False.elim) (.passes outcome fun _ _ _ _ => rfl)
  intro t' hholder hmode hschedule
  rw [hstep t' hholder hmode hschedule, ← hholder]
  rfl

theorem giveUp_sealed {t : Token} {step : Step} {Refused : Except SessionError Unit → Prop}
    {finish : Session → ThreadId → Except SessionError Unit × Session}
    (hstep : ∀ t' : Token, t'.step step = (.gaveUp (t'.giveUp finish).1, (t'.giveUp finish).2))
    (hrefused : ∀ result, Refused result → step.Refused (.gaveUp (result.mapError .session)))
    (h : ∀ holder, t.session.Sealed Refused (finish · holder)) : t.Sealed step := by
  cases hholder : t.holder with
  | none =>
    refine .of_answer (.gaveUp (.error .notHeld)) ?_
    intro t' hfree _ _
    rw [hstep, giveUp_of_free (hfree.trans hholder)]
  | some holder =>
    refine .of_session (fun result => .gaveUp (result.mapError .session)) none ?_ hrefused (h holder)
    intro t' hheld _ _
    rw [hstep, giveUp_of_held (hheld.trans hholder)]

theorem start_sealed (s : Session) (thread : ThreadId) :
    s.Sealed (fun _ => False) fun s' =>
      ((none : Option Session.ExitWait),
        { s' with running := thread, schedule := s'.schedule.start }) :=
  ⟨.of_running s thread s.schedule.start s.identities, fun _ _ => rfl, .inr fun _ _ => rfl⟩

theorem awaitExit_sealed (s : Session) (thread : ThreadId) (answers : ExitProbe → Nat → Bool) :
    s.Sealed (fun _ => False) fun s' =>
      Session.awaitExit { s' with running := thread } answers := by
  refine ⟨?_, ?_, .inr ?_⟩
  · exact .trans (.of_running s thread s.schedule s.identities) (Session.awaitExit_frozen _ answers)
  · intro channel _
    exact Session.awaitExit_relog { s with running := thread } channel answers
  · intro channel _
    have hfrozen := Session.awaitExit_frozen { s.reopen channel with running := thread } answers
    exact congrArg Channel.entries hfrozen.channel

theorem acquire_sealed {t : Token} (hclosed : t.session.isClosed) (thread : ThreadId)
    (callerClass : CallerClass) (answers : ExitProbe → Nat → Bool) :
    t.Sealed (.acquire thread callerClass answers) := by
  by_cases hheld : t.holder.isSome
  · refine .of_answer (.asked (.error .alreadyHeld)) ?_
    intro t' hholder _ _
    rw [step, acquire_of_held (by rw [hholder]; exact hheld)]
  · rcases Session.ask_of_closed hclosed thread callerClass with hask | ⟨answer, hask⟩
    · have hrefused (channel : Channel) (hmode : channel.mode = t.session.mode) :
          (t.relog channel).step (.acquire thread callerClass answers) =
            (.asked (.error (.session .closed)), t.relog channel) := by
        have hask : (t.relog channel).session.ask thread callerClass = _ := hask channel hmode
        have hfree : ¬(t.relog channel).holder.isSome := hheld
        rw [step, acquire, if_neg hfree, Session.enter, hask]
        rfl
      have ht : t.step (.acquire thread callerClass answers) =
          (.asked (.error (.session .closed)), t) := hrefused t.session.channel rfl
      constructor
      · rw [ht]
        exact .refl _
      · rw [ht]
        exact hrefused
      · intro _
        rw [ht]
        exact rfl
    · have hfree {t' : Token} (hholder : t'.holder = t.holder) : ¬t'.holder.isSome := by
        rw [hholder]
        exact hheld
      cases answer with
      | error e =>
        refine .of_answer (.asked (.error (.session e))) ?_
        intro t' hholder hmode hschedule
        rw [step, acquire, if_neg (hfree hholder), Session.enter, hask _ hmode hschedule]
      | ok admission =>
        cases admission with
        | notYet =>
          refine .of_answer (.asked (.ok .notYet)) ?_
          intro t' hholder hmode hschedule
          rw [step, acquire, if_neg (hfree hholder), Session.enter, hask _ hmode hschedule]
        | first =>
          refine .of_session (fun wait => .asked (.ok (.granted wait))) (some thread) ?_
            (fun _ => False.elim) (start_sealed t.session thread)
          intro t' hholder hmode hschedule
          rw [step, acquire, if_neg (hfree hholder), Session.enter, hask _ hmode hschedule]
        | admitted =>
          refine .of_session (fun wait => .asked (.ok (.granted wait))) (some thread) ?_
            (fun _ => False.elim) (awaitExit_sealed t.session thread answers)
          intro t' hholder hmode hschedule
          rw [step, acquire, if_neg (hfree hholder), Session.enter, hask _ hmode hschedule]

/-- Once the session is closed, a step that would have logged something is told so, and every other one does
what it does with any log. -/
theorem step_sealed {t : Token} (hclosed : t.session.isClosed) (step : Step) : t.Sealed step := by
  cases step with
  | acquire thread callerClass answers => exact acquire_sealed hclosed thread callerClass answers
  | release tag =>
    refine giveUp_sealed (fun _ => rfl) ?_ fun holder => Session.release_sealed hclosed holder tag
    rintro _ rfl
    exact rfl
  | exitThread =>
    refine giveUp_sealed (fun _ => rfl) ?_ fun holder => Session.exitThread_sealed hclosed holder
    rintro _ rfl
    exact rfl
  | drop =>
    have hstep (t' : Token) : t'.step .drop =
        (.gaveUp (t'.giveUp fun session _ => (.ok (), session)).1,
          (t'.giveUp fun session _ => (.ok (), session)).2) := rfl
    exact giveUp_sealed hstep (fun _ => False.elim) fun _ => .passes (.ok ()) fun _ _ _ _ => rfl
  | call call =>
    refine .of_session .replied t.holder ?_ (fun _ hrefused => hrefused)
      (Session.perform_sealed hclosed call)
    intro t' hholder _ _
    rw [step, ← hholder]

/-- What happens once the session is closed would happen with any log of the mode. -/
theorem run_of_closed {t : Token} (hclosed : t.session.isClosed) (steps : List Step) :
    t.session.Frozen (t.run steps).2.session ∧
      ∀ channel, channel.mode = t.session.mode →
        (t.relog channel).run steps = ((t.run steps).1, (t.run steps).2.relog channel) := by
  induction steps generalizing t with
  | nil => exact ⟨.refl _, fun _ _ => rfl⟩
  | cons step rest ih =>
    obtain ⟨hfrozen, hdetached, _⟩ := step_sealed hclosed step
    obtain ⟨hrest, hruns⟩ := ih (hfrozen.isClosed.trans hclosed)
    refine ⟨hfrozen.trans hrest, ?_⟩
    intro channel hmode
    rw [run, hdetached channel hmode]
    dsimp only
    rw [hruns channel (hmode.trans hfrozen.mode.symm)]
    rfl

/-- Closing is final. It tells what was done up to then, whether or not the last sync succeeds; a
failure is reported once. Closing again tells the same, nothing differs from the log any more, and the
log is not looked at: any other one would do. What would log something, if the session were open, is
refused. -/
theorem closed_for_good {t : Token} (hopen : t.session.isClosed = false) {told : Summary}
    {s : Session} (hclose : t.session.close = (told, s)) {later : List Step}
    {outcomes : List Outcome} {t' : Token}
    (hrun : ({ t with session := s } : Token).run later = (outcomes, t')) :
    told = ⟨t.session.mode, t.session.channel.entries, t.session.divergence⟩ ∧
    t'.session.close = (told, t'.session) ∧
    t'.session.divergence = told.divergence ∧
    (∃ waits : List ThreadId, t'.session.warnings =
      t.session.warnings ++ t.session.channel.syncFailure?.toList.map .finalSync ++
        waits.map .stillExiting) ∧
    t'.session.channel = s.channel ∧
    (∀ channel, channel.mode = s.mode →
      ({ t with session := s.relog channel } : Token).run later = (outcomes, t'.relog channel)) ∧
    ∀ step, t'.WouldLog step → step.Refused (t'.step step).1 := by
  obtain ⟨htold, hsummary, hdivergence, hwarnings⟩ := Session.close_of_open hopen hclose
  have hclosed : s.isClosed := congrArg Option.isSome hsummary
  obtain ⟨hfrozen, hruns⟩ := run_of_closed (t := { t with session := s }) hclosed later
  rw [hrun] at hfrozen hruns
  have htold' : t'.session.summary = some told := hfrozen.summary.trans hsummary
  refine ⟨htold, ?_, ?_, ?_, hfrozen.channel, hruns, ?_⟩
  · rw [Session.close, htold']
  · rw [hfrozen.divergence, htold]
    exact hdivergence
  · rw [← hwarnings]
    exact hfrozen.warnings
  · intro step hlogs
    exact (step_sealed (congrArg Option.isSome htold') step).final hlogs

/-- A recording whose log cannot be flushed, closed after one value was logged. -/
def unsynced : Token :=
  (({ session := .recording { flushFailure := some .isDirectory } {} } : Token).run
    [.acquire .main .normal fun _ _ => true, .call (.syscallRet 3)]).2

def overdue : List Step :=
  [.call (.timestamp 9), .release (.ofBytes [1]), .acquire ⟨2⟩ .normal fun _ _ => true, .call .close]

theorem closed_for_good_unsynced :
    let s := unsynced.session.close.2
    let run := ({ unsynced with session := s } : Token).run overdue
    unsynced.session.isClosed = false ∧
      unsynced.session.close = (⟨.record, 1, {}⟩, s) ∧
      run.2.session.close = (⟨.record, 1, {}⟩, run.2.session) ∧
      (∃ waits : List ThreadId, run.2.session.warnings =
        [.finalSync (.io .isDirectory)] ++ waits.map .stillExiting) ∧
      Channel.mode (.record { sink := {} }) = s.mode ∧
      ({ unsynced with session := s.relog (.record { sink := {} }) } : Token).run overdue =
        (run.1, run.2.relog (.record { sink := {} })) ∧
      run.2.WouldLog (.call (.syscallRet 3)) ∧
      (Step.call (.syscallRet 3)).Refused (run.2.step (.call (.syscallRet 3))).1 := by
  intro s run
  have hopen : unsynced.session.isClosed = false := by decide +kernel
  have hclose : unsynced.session.close = (unsynced.session.close.1, s) := rfl
  have hrun : ({ unsynced with session := s } : Token).run overdue = (run.1, run.2) := rfl
  obtain ⟨htold, hagain, _, hwarnings, _, hdetached, hrefused⟩ := closed_for_good hopen hclose hrun
  have hsummary : unsynced.session.close.1 = ⟨.record, 1, {}⟩ := by
    rw [htold]
    decide +kernel
  have hmode : Channel.mode (.record { sink := {} }) = s.mode := by decide +kernel
  have hlogs : run.2.WouldLog (.call (.syscallRet 3)) :=
    ⟨.record { sink := {} }, by decide +kernel, by decide +kernel⟩
  rw [hsummary] at hclose hagain
  have hreported : unsynced.session.warnings ++
      unsynced.session.channel.syncFailure?.toList.map .finalSync =
        [.finalSync (.io .isDirectory)] := by decide +kernel
  rw [hreported] at hwarnings
  exact ⟨hopen, hclose, hagain, hwarnings, hmode, hdetached _ hmode, hlogs, hrefused _ hlogs⟩

end Token

end Retrace
