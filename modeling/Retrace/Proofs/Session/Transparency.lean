import Retrace.Proofs.Session.Framing
import Retrace.Proofs.Session.Handout
import Retrace.Proofs.Session.Polling

namespace Retrace

def Summary.nothing : Summary := ⟨.inactive, 0, {}⟩

def Call.live : Call → Value
  | .clientCmdline live => .commandLine live
  | .threadCreate _ _ kernel => .kernelTid kernel
  | .timestamp counter => .counter counter
  | .close => .summary .nothing
  | .syscallArgs .. | .syscallRet _ | .syscallMem _ | .dispatchCounter .. | .initMemLayout ..
  | .initClientStack .. | .initGuestState _ | .snapshot _ | .registerProbe .. => .done

/-- Whether a call asks for an open session before anything else. -/
def Call.wantsOpen : Call → Bool
  | .clientCmdline _ | .snapshot _ => true
  | _ => false

def Call.registers : Call → Bool
  | .registerProbe .. => true
  | _ => false

/-- The table after a step that changes nothing of it but the probe that it brings. -/
def IdentityTable.after (table : IdentityTable) : Step → IdentityTable
  | .call (.registerProbe slot probe) => (table.registerProbe slot probe).toOption.getD table
  | _ => table

namespace Session

/-- A session without a log, at any time. -/
structure Idle (s : Session) : Prop where
  channel : s.channel = .inactive
  schedule : s.schedule = {}
  divergence : s.divergence = {}
  told : ∀ told ∈ s.summary, told = .nothing

theorem perform_of_wantsOpen {s : Session} (hclosed : s.isClosed) {call : Call}
    (hwants : call.wantsOpen) :
    s.perform call = ({ result := .error .closed, call }, s) := by
  cases call with
  | clientCmdline live => rw [perform, clientCmdline, if_pos hclosed]; rfl
  | snapshot registers => rw [perform, snapshot, if_pos hclosed]; rfl
  | _ => cases hwants

theorem Idle.close {s : Session} (h : s.Idle) :
    s.close = (.nothing, { s with summary := some .nothing }) := by
  rw [Session.close]
  cases hsummary : s.summary with
  | some told =>
    cases h.told told hsummary
    dsimp only
    rw [← hsummary]
  | none =>
    have hfinish : s.finish = s := by rw [finish, h.channel]
    have htally : s.tally = .nothing := by rw [tally, h.divergence, mode, h.channel]; rfl
    dsimp only
    rw [hfinish, htally]

theorem passive_of_inactive {s : Session} (h : s.channel = .inactive) :
    (!s.mode.isActive) = true := by
  rw [mode, h]
  rfl

/-- Every call that is not about the session itself passes the live value on, and leaves what it was
brought and the session as they are. -/
theorem perform_of_inactive {s : Session} (h : s.channel = .inactive) {call : Call}
    (hopen : ¬(s.isClosed ∧ call.wantsOpen)) (hregisters : call.registers = false)
    (hclose : call ≠ .close) :
    (s.perform call).1.result = .ok call.live ∧ (s.perform call).1.call = call ∧
      (s.perform call).2 = s := by
  have hopened (hwants : call.wantsOpen) : ¬s.isClosed := fun hclosed => hopen ⟨hclosed, hwants⟩
  have hpassive := passive_of_inactive h
  cases call with
  | clientCmdline live =>
    rw [perform, clientCmdline, if_neg (hopened rfl), h]
    exact ⟨rfl, rfl, rfl⟩
  | threadCreate parent child kernel =>
    rw [perform, threadCreate, if_pos hpassive]
    exact ⟨rfl, rfl, rfl⟩
  | syscallArgs thread sysno registers =>
    rw [perform, syscallArgs, if_pos hpassive]
    exact ⟨rfl, rfl, rfl⟩
  | syscallRet value =>
    rw [perform, syscallRet, if_pos hpassive]
    exact ⟨rfl, rfl, rfl⟩
  | syscallMem regions =>
    rw [perform, syscallMem, if_pos hpassive]
    exact ⟨rfl, rfl, rfl⟩
  | dispatchCounter counter before =>
    rw [perform, dispatchCounter, if_pos hpassive]
    exact ⟨rfl, rfl, rfl⟩
  | initMemLayout vstart stackTop =>
    rw [perform, initMemLayout, if_pos hpassive]
    exact ⟨rfl, rfl, rfl⟩
  | initClientStack stackTop image memory =>
    rw [perform, initClientStack, if_pos hpassive]
    exact ⟨rfl, rfl, rfl⟩
  | initGuestState registers =>
    rw [perform, initGuestState, if_pos hpassive]
    exact ⟨rfl, rfl, rfl⟩
  | snapshot registers =>
    rw [perform, snapshot, if_neg (hopened rfl), if_pos hpassive]
    exact ⟨rfl, rfl, rfl⟩
  | timestamp counter =>
    have hlive : s.readsCounter = true := by
      rw [readsCounter, mode, h]
      rfl
    rw [perform, timestamp, if_pos hpassive, if_pos hlive]
    exact ⟨rfl, rfl, rfl⟩
  | registerProbe slot probe => cases hregisters
  | close => exact (hclose rfl).elim

theorem perform_snd_of_inactive {s : Session} (h : s.channel = .inactive) {call : Call}
    (hregisters : call.registers = false) (hclose : call ≠ .close) : (s.perform call).2 = s := by
  by_cases hrefused : s.isClosed ∧ call.wantsOpen
  · rw [perform_of_wantsOpen hrefused.1 hrefused.2]
  · exact (perform_of_inactive h hrefused hregisters hclose).2.2

theorem Idle.after_call {s : Session} (h : s.Idle) (call : Call) :
    (s.perform call).2.Idle ∧
      (s.perform call).2.identities = s.identities.after (.call call) := by
  cases call with
  | registerProbe slot probe =>
    rw [Session.perform, registerProbe, IdentityTable.after]
    cases s.identities.registerProbe slot probe with
    | ok identities => exact ⟨⟨h.channel, h.schedule, h.divergence, h.told⟩, rfl⟩
    | error e => exact ⟨h, rfl⟩
  | close =>
    rw [Session.perform, h.close]
    exact ⟨⟨h.channel, h.schedule, h.divergence, fun told htold => (Option.some.inj htold).symm⟩, rfl⟩
  | _ =>
    rw [perform_snd_of_inactive h.channel]
    · exact ⟨h, rfl⟩
    · rfl
    · exact Call.noConfusion

theorem Idle.awaitExit {s : Session} (h : s.Idle) (answers : ExitProbe → Nat → Bool) :
    s.awaitExit answers = (none, s) := by
  have hnone : s.schedule.exiting = none := by rw [h.schedule]
  rw [Session.awaitExit, Schedule.takeExiting, hnone]
  dsimp only
  rw [← hnone]

theorem Idle.running {s : Session} (h : s.Idle) (thread : ThreadId) :
    Idle { s with running := thread } :=
  ⟨h.channel, h.schedule, h.divergence, h.told⟩

theorem release_of_inactive {s : Session} (h : s.channel = .inactive) (thread : ThreadId)
    (tag : Log.ReleaseTag) : s.release thread tag = (.ok (), { s with running := .nobody }) := by
  rw [release]
  exact if_pos (passive_of_inactive h)

theorem exitThread_of_inactive {s : Session} (h : s.channel = .inactive) {thread : ThreadId}
    (hvalid : thread.isValid) : s.exitThread thread = (.ok (), { s with running := .nobody }) := by
  rw [exitThread, hvalid, if_neg (by decide), release_of_inactive h]
  exact if_pos (passive_of_inactive h)

end Session

namespace Token

theorem acquire_of_idle {t : Token} (h : t.session.Idle) (hfree : t.holder = none)
    (thread : ThreadId) (callerClass : Log.CallerClass) (answers : ExitProbe → Nat → Bool) :
    t.acquire thread callerClass answers =
      (.ok (.granted none),
        { session := { t.session with running := thread }, holder := some thread }) := by
  have hmode : t.session.mode = .inactive := by
    rw [Session.mode, h.channel]
    rfl
  have hask : t.session.ask thread callerClass = (.ok .admitted, t.session) := by
    rw [Session.ask, hmode]
  have henter : t.session.enter thread callerClass =
      (.ok .admitted, { t.session with running := thread }) := by
    rw [Session.enter, hask]
  rw [acquire, hfree, henter]
  dsimp only
  rw [(h.running thread).awaitExit]
  rfl

theorem idle_step {t : Token} (h : t.session.Idle) (step : Step) :
    (t.step step).2.session.Idle ∧
      (t.step step).2.session.identities = t.session.identities.after step := by
  let kept (s : Session) : Prop := s.Idle ∧ s.identities = t.session.identities
  cases step with
  | acquire thread callerClass answers =>
    rw [Token.step]
    cases hholder : t.holder with
    | some holder =>
      rw [acquire_of_held (by rw [hholder]; rfl)]
      exact ⟨h, rfl⟩
    | none =>
      rw [acquire_of_idle h hholder]
      exact ⟨h.running thread, rfl⟩
  | release tag =>
    change kept (t.giveUp fun session holder => session.release holder tag).2.session
    apply giveUp_session kept ⟨h, rfl⟩
    intro holder
    rw [Session.release_of_inactive h.channel]
    exact ⟨h.running .nobody, rfl⟩
  | exitThread =>
    change kept (t.giveUp Session.exitThread).2.session
    apply giveUp_session kept ⟨h, rfl⟩
    intro holder
    by_cases hvalid : holder.isValid
    · rw [Session.exitThread_of_inactive h.channel hvalid]
      exact ⟨h.running .nobody, rfl⟩
    · rw [Session.exitThread, if_pos (by rw [Bool.eq_false_iff.mpr hvalid]; rfl)]
      exact ⟨h, rfl⟩
  | drop =>
    change kept (t.giveUp fun session _ => (.ok (), session)).2.session
    exact giveUp_session kept ⟨h, rfl⟩ fun _ => ⟨h, rfl⟩
  | call call => exact h.after_call call

theorem idle_run {t : Token} (h : t.session.Idle) (steps : List Step) :
    (t.run steps).2.session.Idle ∧
      (t.run steps).2.session.identities = steps.foldl .after t.session.identities := by
  induction steps generalizing t with
  | nil => exact ⟨h, rfl⟩
  | cons step rest ih =>
    obtain ⟨hstep, hidentities⟩ := idle_step h step
    obtain ⟨hrest, htable⟩ := ih hstep
    rw [hidentities] at htable
    exact ⟨hrest, htable⟩

def unlogged (config : Config) (layout : Guest.RegisterLayout) : Token :=
  { session := (Session.inactive config).withLayout layout }

/-- Without a log every call gets its live value, every thread that asks for the free token runs, and
every thread may stop, for good or not, whatever was done before. A closed session refuses a command
line and a register image all the same. Nobody is scheduled or marked, only probes are kept, and there
is nothing to tell at the end. -/
theorem passes_unless_closed {config : Config} {layout : Guest.RegisterLayout} {steps : List Step}
    {outcomes : List Outcome} {t : Token}
    (hrun : (unlogged config layout).run steps = (outcomes, t)) :
    (∀ call, call.registers = false →
      if t.session.isClosed ∧ call.wantsOpen then
        t.session.perform call = ({ result := .error .closed, call }, t.session)
      else
        (t.session.perform call).1.result = .ok call.live ∧
          (t.session.perform call).1.call = call ∧
          (call ≠ .close → (t.session.perform call).2 = t.session)) ∧
    (∀ thread callerClass answers, t.holder = none →
      t.acquire thread callerClass answers =
        (.ok (.granted none),
          { session := { t.session with running := thread }, holder := some thread })) ∧
    (∀ thread,
      (∀ tag, t.session.release thread tag = (.ok (), { t.session with running := .nobody })) ∧
      (thread.isValid →
        t.session.exitThread thread = (.ok (), { t.session with running := .nobody }))) ∧
    t.session.schedule = { turn := .notStarted, exiting := none } ∧
    t.session.identities = steps.foldl .after .empty ∧
    t.session.close.1 = { mode := .inactive, entries := 0, divergence := {} } := by
  have hstart : (unlogged config layout).session.Idle :=
    ⟨rfl, rfl, rfl, fun _ htold => (Option.not_mem_none _ htold).elim⟩
  have hlast : ((unlogged config layout).run steps).2 = t := congrArg Prod.snd hrun
  obtain ⟨hidle, hidentities⟩ := idle_run hstart steps
  rw [hlast] at hidle hidentities
  refine ⟨?_, ?_, ?_, hidle.schedule, hidentities, ?_⟩
  · intro call hregisters
    split
    · rename_i hrefused
      exact Session.perform_of_wantsOpen hrefused.1 hrefused.2
    · rename_i hpassed
      by_cases hclose : call = .close
      · rw [hclose, Session.perform, hidle.close]
        exact ⟨rfl, rfl, fun hother => (hother rfl).elim⟩
      · obtain ⟨hresult, hbrought, hkept⟩ :=
          Session.perform_of_inactive hidle.channel hpassed hregisters hclose
        exact ⟨hresult, hbrought, fun _ => hkept⟩
  · intro thread callerClass answers hfree
    exact acquire_of_idle hidle hfree thread callerClass answers
  · intro thread
    exact ⟨Session.release_of_inactive hidle.channel thread,
      Session.exitThread_of_inactive hidle.channel⟩
  · rw [hidle.close]
    rfl

/-- A thread that is no main thread runs first, leaves a probe and stops for good; then the session is
closed. -/
def unnoticed : List Step :=
  [.acquire ⟨7⟩ .preempt fun _ _ => false, .call (.registerProbe ⟨7⟩ ⟨3⟩), .exitThread, .call .close]

theorem passes_unless_closed_unnoticed :
    let t := ((unlogged {} .x86).run unnoticed).2
    (unlogged {} .x86).run unnoticed = (((unlogged {} .x86).run unnoticed).1, t) ∧
      (t.session.perform (.timestamp 5)).1.result = .ok (.counter 5) ∧
      t.session.perform (.snapshot []) =
        ({ result := .error .closed, call := .snapshot [] }, t.session) ∧
      t.session.identities.probeOf? ⟨7⟩ = some ⟨3⟩ := by
  intro t
  have hrun : (unlogged {} .x86).run unnoticed = (((unlogged {} .x86).run unnoticed).1, t) := rfl
  obtain ⟨hcalls, _, _, _, hidentities, _⟩ := passes_unless_closed hrun
  have hclosed : t.session.isClosed := by decide +kernel
  have htimestamp := hcalls (.timestamp 5) rfl
  have hsnapshot := hcalls (.snapshot []) rfl
  rw [if_neg fun h => Bool.false_ne_true h.2] at htimestamp
  rw [if_pos ⟨hclosed, rfl⟩] at hsnapshot
  refine ⟨hrun, htimestamp.1, hsnapshot, ?_⟩
  rw [hidentities]
  decide +kernel

theorem refuses_once_closed :
    ¬∀ (steps : List Step) (call : Call), call.registers = false →
      (((unlogged {} .x86).run steps).2.session.perform call).1.result = .ok call.live := by
  intro hpasses
  cases hpasses [.call .close] (.clientCmdline ⟨"/bin/ls", ["-l"]⟩) rfl

end Token

end Retrace
