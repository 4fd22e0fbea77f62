import Retrace.Proofs.Session.Framing
import Retrace.Proofs.Session.Handout
import Retrace.Proofs.Session.Polling

namespace Retrace

open Log

namespace Session

inductive Opened : Session → Prop
  | recording (sink : Sink) (config : Config) (layout : Guest.RegisterLayout) :
      Opened ((recording sink config).withLayout layout)
  | replaying (source : Source) (config : Config) (layout : Guest.RegisterLayout) :
      Opened ((replaying source config).withLayout layout)

/-- Only the log and who runs, now or next, may be other ones. -/
def Turns (s s' : Session) : Prop :=
  ∃ channel running turn, channel.mode = s.channel.mode ∧
    (s.schedule.turn ≠ .notStarted → turn ≠ .notStarted) ∧
    s' = { s with channel, running, schedule := { s.schedule with turn } }

theorem Turns.refl (s : Session) : s.Turns s := ⟨s.channel, s.running, s.schedule.turn, rfl, id, rfl⟩

theorem Turns.trans {s s' s'' : Session} (h : s.Turns s') (h' : s'.Turns s'') : s.Turns s'' := by
  obtain ⟨channel, running, turn, hmode, hturn, rfl⟩ := h
  obtain ⟨channel', running', turn', hmode', hturn', rfl⟩ := h'
  exact ⟨channel', running', turn', hmode'.trans hmode, hturn' ∘ hturn, rfl⟩

theorem Turns.exiting {s s' : Session} (h : s.Turns s') :
    s'.schedule.exiting = s.schedule.exiting := by
  obtain ⟨_, _, _, _, _, rfl⟩ := h
  rfl

theorem Turns.identities {s s' : Session} (h : s.Turns s') : s'.identities = s.identities := by
  obtain ⟨_, _, _, _, _, rfl⟩ := h
  rfl

theorem Turns.mode_eq {s s' : Session} (h : s.Turns s') : s'.mode = s.mode := by
  obtain ⟨_, _, _, hmode, _, rfl⟩ := h
  exact hmode

theorem process_turns (s : Session) (template : Entry) : s.Turns (s.process template).2 := by
  obtain ⟨channel, hmode, hprocess⟩ := s.process_channel template
  exact ⟨channel, s.running, s.schedule.turn, hmode, id, hprocess⟩

theorem handOver_turns (s : Session) : s.Turns s.handOver.2 := by
  rw [handOver]
  split <;> rename_i hchannel
  · exact .refl s
  · split <;> exact ⟨_, s.running, s.schedule.turn, (by rw [hchannel]; rfl), id, rfl⟩
  · have hmode (reader : Reader) : (Channel.replay reader).mode = s.channel.mode := by
      rw [hchannel]
      rfl
    split
    · rename_i next callerClass reader _
      exact ⟨_, s.running, .scheduled next callerClass, hmode reader, fun _ => Turn.noConfusion, rfl⟩
    · exact ⟨_, s.running, s.schedule.turn, hmode _, id, rfl⟩
    · exact ⟨_, s.running, .exhausted, hmode _, fun _ => Turn.noConfusion, rfl⟩
    · exact ⟨_, s.running, s.schedule.turn, hmode _, id, rfl⟩

theorem release_turns (s : Session) (thread : ThreadId) (tag : ReleaseTag) :
    s.Turns (s.release thread tag).2 := by
  have hfree : s.Turns { s with running := .nobody } :=
    ⟨s.channel, .nobody, s.schedule.turn, rfl, id, rfl⟩
  rw [release]
  split
  · exact hfree
  · have hturns := process_turns { s with running := .nobody } (.release thread tag)
    split <;> rename_i hprocess <;> rw [hprocess] at hturns
    · exact hfree.trans hturns
    · exact hfree.trans (hturns.trans (handOver_turns _))

theorem exitThread_cases {s : Session} (h : s.mode.isActive) (thread : ThreadId) :
    (∃ e s', s.exitThread thread = (.error e, s') ∧ s.Turns s') ∨
      ∃ s', s.Turns s' ∧ s.exitThread thread = (.ok (), {
        s' with
        schedule := { s'.schedule with exiting := some thread }
        identities := s'.identities.clear thread }) := by
  rw [exitThread]
  split
  · exact .inl ⟨_, _, rfl, .refl s⟩
  · have hturns := s.release_turns thread .exitThread
    split <;> rename_i s' hrelease <;> rw [hrelease] at hturns
    · exact .inl ⟨_, _, rfl, hturns⟩
    · have hactive : s'.mode.isActive := by
        obtain ⟨channel, running, turn, hmode, _, rfl⟩ := hturns
        change channel.mode.isActive
        rw [hmode]
        exact h
      rw [hactive]
      exact .inr ⟨s', hturns, rfl⟩

/-- All that a thread that asks to run can get, before it waits for another one. -/
inductive Asks (s : Session) : Except SessionError Admission → Session → Prop
  | refused {e : SessionError} {s' : Session} (turns : s.Turns s') : Asks s (.error e) s'
  | waits : Asks s (.ok .notYet) s
  | first (turn : s.schedule.turn = .notStarted) : Asks s (.ok .first) s
  | admitted {s' : Session} (turns : s.Turns s')
      (started : s.mode.isActive → s'.schedule.turn ≠ .notStarted) : Asks s (.ok .admitted) s'

theorem asks_of_answer (s : Session) (thread : ThreadId) (callerClass : CallerClass) :
    s.Asks (s.schedule.answer thread callerClass) s := by
  rw [Schedule.answer]
  split <;> rename_i hturn
  · split
    · exact .first hturn
    · exact .refused (.refl s)
  · split
    · exact .waits
    · split
      · exact .refused (.refl s)
      · exact .admitted (.refl s) fun _ hstart => Turn.noConfusion (hturn.symm.trans hstart)
  · exact .refused (.refl s)

theorem ask_asks (s : Session) (thread : ThreadId) (callerClass : CallerClass) :
    s.Asks (s.ask thread callerClass).1 (s.ask thread callerClass).2 := by
  rw [ask]
  split
  · rename_i hmode
    refine .admitted (.refl s) ?_
    intro hactive
    rw [hmode] at hactive
    cases hactive
  · have hturns := s.process_turns (.acquire thread callerClass)
    split <;> rename_i hprocess <;> rw [hprocess] at hturns
    · refine .admitted (hturns.trans ?_) fun _ => Turn.noConfusion
      exact ⟨_, _, .scheduled thread callerClass, rfl, fun _ => Turn.noConfusion, rfl⟩
    · exact .refused hturns
  · exact s.asks_of_answer thread callerClass

/-- The thread that is marked, with its probe. The main thread is never waited for. -/
def watched? (s : Session) : Option (ThreadId × ExitProbe) :=
  match s.schedule.exiting with
  | none => none
  | some thread =>
    if thread = .main then none
    else (s.identities.probeOf? thread).map fun probe => (thread, probe)

/-- A probe was taken out of its slot and polled until it saw the exit, or once more than it may be
asked again; then the thread was given up, which is reported. -/
structure Polls (s : Session) (retries : Nat) (answers : Nat → Bool) (thread : ThreadId)
    (wait : ExitProbe.Wait) (s' : Session) : Prop where
  polls : ∀ j, ExitProbe.SeenAt answers j → wait.polls = min j (retries + 1)
  unseen : (∀ i < retries + 1, answers i = false) → wait.polls = retries + 1
  taken : ∀ slot, s'.identities.get? slot =
    if slot = thread then (s.identities.get? thread).map ({ · with probe := none })
    else s.identities.get? slot
  warned : s'.warnings =
    s.warnings ++ if ∃ i < retries + 1, answers i = true then [] else [.stillExiting thread]

def WaitsOut (s : Session) (retries : Nat) (answers : ExitProbe → Nat → Bool)
    (wait : Option ExitWait) (s' : Session) : Prop :=
  match s.watched? with
  | none => wait = none ∧ s'.identities = s.identities ∧ s'.warnings = s.warnings
  | some (thread, probe) =>
    ∃ polled, wait = some ⟨thread, probe, polled⟩ ∧ s.Polls retries (answers probe) thread polled s'

theorem awaitExit_waitsOut (s : Session) (answers : ExitProbe → Nat → Bool) :
    s.WaitsOut s.config.exitWaitRetries.toNat answers (s.awaitExit answers).1
      (s.awaitExit answers).2 := by
  rw [WaitsOut, watched?, awaitExit, Schedule.takeExiting]
  cases s.schedule.exiting with
  | none => exact ⟨rfl, rfl, rfl⟩
  | some thread =>
    dsimp only
    by_cases hmain : thread = .main
    · rw [if_pos hmain, if_pos (ThreadId.isMain_iff.mpr hmain)]
      exact ⟨rfl, rfl, rfl⟩
    · rw [if_neg hmain, if_neg fun h => hmain (ThreadId.isMain_iff.mp h)]
      have hprobe := s.identities.takeProbe_fst thread
      have htaken := s.identities.get?_takeProbe thread
      cases htake : s.identities.takeProbe thread with
      | mk probe identities =>
        rw [htake] at hprobe htaken
        rw [← hprobe]
        cases probe with
        | none => exact ⟨rfl, rfl, rfl⟩
        | some probe =>
          have hobserved :=
            ExitProbe.observed_wait (answers probe) s.config.exitWaitRetries.toNat
          refine ⟨_, rfl, ?_, ?_, ?_, ?_⟩
          · intro j hseen
            exact ExitProbe.polls_wait hseen _
          · intro hunseen
            rw [ExitProbe.wait_of_unseen hunseen]
          · intro slot
            dsimp only
            split <;> exact htaken slot
          · dsimp only
            rw [← if_congr hobserved rfl rfl]
            split
            · exact (List.append_nil _).symm
            · rfl

theorem WaitsOut.of_turns {s s' s'' : Session} {retries : Nat} {answers : ExitProbe → Nat → Bool}
    {wait : Option ExitWait} (hturns : s.Turns s') (h : s'.WaitsOut retries answers wait s'') :
    s.WaitsOut retries answers wait s'' := by
  obtain ⟨channel, running, turn, _, _, rfl⟩ := hturns
  have hwatched : watched? { s with channel, running, schedule := { s.schedule with turn } } =
      s.watched? := rfl
  rw [WaitsOut, hwatched] at h
  rw [WaitsOut]
  cases hprobe : s.watched? with
  | none =>
    rw [hprobe] at h
    exact h
  | some watched =>
    rw [hprobe] at h
    obtain ⟨polled, hwait, hpolls⟩ := h
    exact ⟨polled, hwait, hpolls.polls, hpolls.unseen, hpolls.taken, hpolls.warned⟩

theorem exiting_awaitExit (s : Session) (answers : ExitProbe → Nat → Bool) :
    (s.awaitExit answers).2.schedule.exiting = none := by
  obtain ⟨identities, warnings, hframe, _⟩ := s.awaitExit_frame answers
  rw [hframe]

theorem awaitExit_congr {s : Session} {answers answers' : ExitProbe → Nat → Bool}
    (h : ∀ wait, (s.awaitExit answers).1 = some wait →
      ∀ i < wait.wait.polls, answers' wait.probe i = answers wait.probe i) :
    s.awaitExit answers' = s.awaitExit answers := by
  rw [awaitExit, Schedule.takeExiting] at h ⊢
  rw [awaitExit, Schedule.takeExiting]
  cases hexiting : s.schedule.exiting with
  | none => rfl
  | some thread =>
    rw [hexiting] at h
    dsimp only at h ⊢
    by_cases hmain : thread.isMain
    · rw [if_pos hmain, if_pos hmain]
    · rw [if_neg hmain] at h ⊢
      rw [if_neg hmain]
      cases htake : s.identities.takeProbe thread with
      | mk probe identities =>
        rw [htake] at h
        cases probe with
        | none => rfl
        | some probe =>
          have hwait := ExitProbe.wait_congr (h _ rfl)
          dsimp only at hwait ⊢
          rw [hwait]

end Session

namespace Token

/-- All that a thread gets that asks for the token once. -/
inductive Attempts (t : Token) (thread : ThreadId) (answers : ExitProbe → Nat → Bool) :
    Except TokenError Grant → Token → Prop
  | refused {e : TokenError} {session : Session} (turns : t.session.Turns session) :
      Attempts t thread answers (.error e) { t with session }
  | waits : Attempts t thread answers (.ok .notYet) t
  | starts (free : t.holder = none) (turn : t.session.schedule.turn = .notStarted) :
      Attempts t thread answers (.ok (.granted none)) {
        session := { t.session with running := thread, schedule := t.session.schedule.start }
        holder := some thread }
  | granted (session : Session) (free : t.holder = none) (turns : t.session.Turns session)
      (started : t.session.mode.isActive → session.schedule.turn ≠ .notStarted) :
      Attempts t thread answers (.ok (.granted (session.awaitExit answers).1)) {
        session := (session.awaitExit answers).2
        holder := some thread }

theorem acquire_attempts (t : Token) (thread : ThreadId) (callerClass : CallerClass)
    (answers : ExitProbe → Nat → Bool) :
    t.Attempts thread answers (t.acquire thread callerClass answers).1
      (t.acquire thread callerClass answers).2 := by
  rw [acquire]
  split
  · exact .refused (.refl _)
  · rename_i hfree
    have hfree : t.holder = none := Option.not_isSome_iff_eq_none.mp hfree
    have hasks := t.session.ask_asks thread callerClass
    rw [Session.enter]
    cases hask : t.session.ask thread callerClass with
    | mk answer session =>
      rw [hask] at hasks
      cases hasks with
      | refused turns => exact .refused turns
      | waits => exact .waits
      | first turn => exact .starts hfree turn
      | admitted turns started =>
        refine .granted { session with running := thread } hfree (turns.trans ?_) started
        exact ⟨session.channel, thread, session.schedule.turn, rfl, id, rfl⟩

def polls : Except TokenError Grant → Nat
  | .ok (.granted (some wait)) => wait.wait.polls
  | _ => 0

/-- An attempt depends on the answers to the polls that it made, and on no other. -/
theorem acquire_congr {t : Token} {thread : ThreadId} {callerClass : CallerClass}
    {answers answers' : ExitProbe → Nat → Bool}
    (h : ∀ probe, ∀ i < polls (t.acquire thread callerClass answers).1,
      answers' probe i = answers probe i) :
    t.acquire thread callerClass answers' = t.acquire thread callerClass answers := by
  simp only [acquire] at h ⊢
  by_cases hheld : t.holder.isSome
  · rw [if_pos hheld, if_pos hheld]
  · rw [if_neg hheld] at h ⊢
    rw [if_neg hheld]
    cases henter : t.session.enter thread callerClass with
    | mk answer session =>
      rw [henter] at h
      cases answer with
      | error e => rfl
      | ok admission =>
        cases admission with
        | first => rfl
        | notYet => rfl
        | admitted =>
          dsimp only at h ⊢
          rw [Session.awaitExit_congr]
          intro wait hwait i hi
          rw [hwait] at h
          exact h wait.probe i hi

/-- A session that records or replays; the first thread of all runs before any thread is marked, and
whoever runs does so with nobody marked. -/
structure Ready (config : Config) (t : Token) : Prop where
  config : t.session.config = config
  active : t.session.mode.isActive
  started : t.holder.isSome ∨ t.session.schedule.exiting.isSome →
    t.session.schedule.turn ≠ .notStarted
  free : t.holder.isSome → t.session.schedule.exiting = none

def Exits (t : Token) (step : Step) (thread : ThreadId) : Prop :=
  step = .exitThread ∧ t.holder = some thread ∧ (t.step step).1.succeeds

/-- All that a step can do about the thread that is marked. -/
inductive Marks (t : Token) (step : Step) : Prop
  | keeps (admitted : step.admitted? (t.step step).1 = none) (stays : ∀ thread, ¬t.Exits step thread)
      (exiting : (t.step step).2.session.schedule.exiting = t.session.schedule.exiting)
  | marks (thread : ThreadId) (admitted : step.admitted? (t.step step).1 = none)
      (exits : t.Exits step thread)
      (exiting : (t.step step).2.session.schedule.exiting = some thread)
  | clears (admitted : (step.admitted? (t.step step).1).isSome)
      (exiting : (t.step step).2.session.schedule.exiting = none)

variable {config : Config} {t : Token}

theorem Ready.of_turns (h : t.Ready config) {session : Session}
    (hturns : t.session.Turns session) {holder : Option ThreadId}
    (hheld : holder.isSome → t.holder.isSome) : Ready config { session, holder } := by
  obtain ⟨channel, running, turn, hmode, hturn, rfl⟩ := hturns
  refine ⟨h.config, ?_, ?_, ?_⟩
  · change channel.mode.isActive
    rw [hmode]
    exact h.active
  · rintro (hsome | hsome)
    · exact hturn (h.started (.inl (hheld hsome)))
    · exact hturn (h.started (.inr hsome))
  · exact fun hsome => h.free (hheld hsome)

theorem Ready.free_of_turns (h : t.Ready config) {session : Session}
    (hturns : t.session.Turns session) : Ready config { session } :=
  h.of_turns hturns fun hnone => (Bool.false_ne_true hnone).elim

theorem Ready.unmarked (h : t.Ready config) (hturn : t.session.schedule.turn = .notStarted) :
    t.session.schedule.exiting = none := by
  cases hexiting : t.session.schedule.exiting with
  | none => rfl
  | some marked => exact (h.started (.inr (by rw [hexiting]; rfl)) hturn).elim

theorem Ready.acquire (h : t.Ready config) (thread : ThreadId) (callerClass : CallerClass)
    (answers : ExitProbe → Nat → Bool) :
    (t.step (.acquire thread callerClass answers)).2.Ready config ∧
      t.Marks (.acquire thread callerClass answers) := by
  have hattempts := t.acquire_attempts thread callerClass answers
  generalize hacquire : t.acquire thread callerClass answers = result at hattempts
  obtain ⟨answer, t'⟩ := result
  have hstep : t.step (.acquire thread callerClass answers) = (.asked answer, t') := by
    rw [Token.step, hacquire]
  have hstays (next : ThreadId) : ¬t.Exits (.acquire thread callerClass answers) next :=
    fun hexits => Step.noConfusion hexits.1
  cases hattempts with
  | refused turns =>
    refine ⟨hstep ▸ h.of_turns turns id, .keeps (hstep ▸ rfl) hstays ?_⟩
    rw [hstep]
    exact turns.exiting
  | waits => exact ⟨hstep ▸ h, .keeps (hstep ▸ rfl) hstays (by rw [hstep])⟩
  | starts free turn =>
    rw [hstep]
    refine ⟨⟨h.config, h.active, fun _ => Turn.noConfusion, fun _ => h.unmarked turn⟩,
      .clears (hstep ▸ rfl) ?_⟩
    rw [hstep]
    exact h.unmarked turn
  | granted session free turns started =>
    obtain ⟨identities, warnings, hframe, _⟩ := session.awaitExit_frame answers
    have hexiting := session.exiting_awaitExit answers
    have hturn : (session.awaitExit answers).2.schedule.turn ≠ .notStarted := by
      rw [hframe]
      exact started h.active
    have hready : Ready config { session } := h.free_of_turns turns
    have hactive : (session.awaitExit answers).2.mode.isActive := by
      rw [hframe]
      exact hready.active
    have hconfig : (session.awaitExit answers).2.config = config := by
      rw [hframe]
      exact hready.config
    rw [hstep]
    refine ⟨⟨hconfig, hactive, fun _ => hturn, fun _ => hexiting⟩, .clears (hstep ▸ rfl) ?_⟩
    rw [hstep]
    exact hexiting

theorem Ready.giveUp (h : t.Ready config)
    (finish : Session → ThreadId → Except SessionError Unit × Session)
    (hturns : ∀ holder, t.session.Turns (finish t.session holder).2) :
    (t.giveUp finish).2.Ready config ∧
      (t.giveUp finish).2.session.schedule.exiting = t.session.schedule.exiting := by
  cases hholder : t.holder with
  | none =>
    rw [giveUp_of_free hholder]
    exact ⟨h, rfl⟩
  | some holder =>
    rw [giveUp_of_held hholder]
    exact ⟨h.free_of_turns (hturns holder), (hturns holder).exiting⟩

theorem Ready.exitThread (h : t.Ready config) :
    (t.step .exitThread).2.Ready config ∧ t.Marks .exitThread := by
  have hstep : t.step .exitThread = (.gaveUp t.exitThread.1, t.exitThread.2) := rfl
  cases hholder : t.holder with
  | none =>
    rw [Token.exitThread, giveUp_of_free hholder] at hstep
    refine ⟨hstep ▸ h, .keeps (hstep ▸ rfl) ?_ (by rw [hstep])⟩
    rintro thread ⟨_, hheld, _⟩
    cases hholder.symm.trans hheld
  | some holder =>
    rw [Token.exitThread, giveUp_of_held hholder] at hstep
    rcases Session.exitThread_cases h.active holder with
      ⟨e, s', hexit, hturns⟩ | ⟨s', hturns, hexit⟩
    · rw [hexit] at hstep
      refine ⟨hstep ▸ h.free_of_turns hturns, .keeps (hstep ▸ rfl) ?_ ?_⟩
      · rintro thread ⟨_, _, hok⟩
        rw [hstep] at hok
        cases hok
      · rw [hstep]
        exact hturns.exiting
    · rw [hexit] at hstep
      have hready : Ready config { t with session := s' } := h.of_turns hturns id
      have hturn := hready.started (.inl (by rw [hholder]; rfl))
      refine ⟨?_, .marks holder (hstep ▸ rfl) ⟨rfl, hholder, hstep ▸ rfl⟩ (hstep ▸ rfl)⟩
      rw [hstep]
      exact ⟨hready.config, hready.active, fun _ => hturn,
        fun hnone => (Bool.false_ne_true hnone).elim⟩

theorem Ready.step (h : t.Ready config) (step : Step) :
    (t.step step).2.Ready config ∧ t.Marks step := by
  cases step with
  | acquire thread callerClass answers => exact h.acquire thread callerClass answers
  | release tag =>
    obtain ⟨hready, hexiting⟩ :=
      h.giveUp (fun session holder => session.release holder tag) fun _ => Session.release_turns ..
    exact ⟨hready, .keeps rfl (fun _ hexits => Step.noConfusion hexits.1) hexiting⟩
  | exitThread => exact h.exitThread
  | drop =>
    obtain ⟨hready, hexiting⟩ :=
      h.giveUp (fun session _ => (.ok (), session)) fun _ => Session.Turns.refl _
    exact ⟨hready, .keeps rfl (fun _ hexits => Step.noConfusion hexits.1) hexiting⟩
  | call call =>
    have hstays := t.session.perform_stays call
    refine ⟨⟨?_, ?_, ?_, ?_⟩, .keeps rfl (fun _ hexits => Step.noConfusion hexits.1) ?_⟩
    · exact hstays.config.trans h.config
    · change (t.session.perform call).2.mode.isActive
      rw [hstays.mode]
      exact h.active
    · change t.holder.isSome ∨ (t.session.perform call).2.schedule.exiting.isSome →
        (t.session.perform call).2.schedule.turn ≠ .notStarted
      rw [hstays.schedule]
      exact h.started
    · change t.holder.isSome → (t.session.perform call).2.schedule.exiting = none
      rw [hstays.schedule]
      exact h.free
    · exact congrArg Schedule.exiting hstays.schedule

theorem Ready.run (h : t.Ready config) (steps : List Step) :
    (t.run steps).2.Ready config := by
  induction steps generalizing t with
  | nil => exact h
  | cons step rest ih => exact ih (h.step step).1

/-- Some thread stopped for good, and nobody was let run since. -/
def Departed (t : Token) (steps : List Step) (thread : ThreadId) : Prop :=
  ∃ before step after, steps = before ++ step :: after ∧
    (t.run before).2.Exits step thread ∧
    admissions after (((t.run before).2.step step).2.run after).1 = []

theorem departed_nil (t : Token) (thread : ThreadId) : ¬t.Departed [] thread := by
  rintro ⟨before, step, after, hsteps, _⟩
  exact List.append_ne_nil_of_right_ne_nil before (List.cons_ne_nil step after) hsteps.symm

theorem departed_cons (t : Token) (step : Step) (rest : List Step) (thread : ThreadId) :
    t.Departed (step :: rest) thread ↔
      (t.Exits step thread ∧ admissions rest ((t.step step).2.run rest).1 = []) ∨
        (t.step step).2.Departed rest thread := by
  constructor
  · rintro ⟨before, exit, after, hsteps, hdeparted⟩
    cases before with
    | nil =>
      obtain ⟨rfl, rfl⟩ := List.cons.inj hsteps
      exact .inl hdeparted
    | cons first before =>
      obtain ⟨rfl, rfl⟩ := List.cons.inj hsteps
      exact .inr ⟨before, exit, after, rfl, hdeparted⟩
  · rintro (hexits | ⟨before, exit, after, rfl, hdeparted⟩)
    · exact ⟨[], step, rest, rfl, hexits⟩
    · exact ⟨step :: before, exit, after, rfl, hdeparted⟩

/-- A step marks the thread that it stops for good; whom somebody who is let run does not find marked
stays marked. -/
theorem Ready.exiting_step (h : t.Ready config) (step : Step)
    (thread : ThreadId) :
    (t.step step).2.session.schedule.exiting = some thread ↔
      t.Exits step thread ∨
        (t.session.schedule.exiting = some thread ∧ step.admitted? (t.step step).1 = none) := by
  cases (h.step step).2 with
  | keeps admitted stays exiting =>
    rw [exiting]
    constructor
    · exact fun hmarked => .inr ⟨hmarked, admitted⟩
    · rintro (hexits | ⟨hmarked, _⟩)
      · exact (stays thread hexits).elim
      · exact hmarked
  | marks holder admitted exits exiting =>
    have hnone : t.session.schedule.exiting = none := h.free (by rw [exits.2.1]; rfl)
    rw [exiting]
    constructor
    · rintro ⟨⟩
      exact .inl exits
    · rintro (hexits | ⟨hmarked, _⟩)
      · exact exits.2.1.symm.trans hexits.2.1
      · cases hnone.symm.trans hmarked
  | clears admitted exiting =>
    rw [exiting]
    constructor
    · rintro ⟨⟩
    · rintro (⟨rfl, _⟩ | ⟨_, hnone⟩)
      · cases admitted
      · rw [hnone] at admitted
        cases admitted

theorem Ready.exiting_run (h : t.Ready config) (steps : List Step)
    (thread : ThreadId) :
    (t.run steps).2.session.schedule.exiting = some thread ↔
      t.Departed steps thread ∨
        (t.session.schedule.exiting = some thread ∧ admissions steps (t.run steps).1 = []) := by
  induction steps generalizing t with
  | nil =>
    constructor
    · exact fun hmarked => .inr ⟨hmarked, rfl⟩
    · rintro (hdeparted | ⟨hmarked, _⟩)
      · exact (t.departed_nil thread hdeparted).elim
      · exact hmarked
  | cons step rest ih =>
    have hadmissions : admissions (step :: rest) (t.run (step :: rest)).1 = [] ↔
        step.admitted? (t.step step).1 = none ∧
          admissions rest ((t.step step).2.run rest).1 = [] := by
      rw [Token.run, admissions_cons, List.append_eq_nil_iff, Option.toList_eq_nil_iff]
    have hlast : (t.run (step :: rest)).2 = ((t.step step).2.run rest).2 := rfl
    rw [hlast, ih (h.step step).1, h.exiting_step, departed_cons, hadmissions, or_and_right,
      ← or_assoc, and_assoc, or_comm (a := (t.step step).2.Departed rest thread)]

/-- Who is let run waits for the thread that is marked, and leaves nobody marked. Who is not let run
leaves the mark, the probes and the reports as they are. -/
def Awaits (t : Token) (retries : Nat) (answers : ExitProbe → Nat → Bool)
    (answer : Except TokenError Grant) (t' : Token) : Prop :=
  match answer with
  | .ok (.granted wait) =>
    t'.session.schedule.exiting = none ∧ t.session.WaitsOut retries answers wait t'.session
  | .ok .notYet | .error _ =>
    t'.session.schedule.exiting = t.session.schedule.exiting ∧
      t'.session.identities = t.session.identities ∧ t'.session.warnings = t.session.warnings

theorem Ready.awaits (h : t.Ready config) (thread : ThreadId)
    (callerClass : CallerClass) (answers : ExitProbe → Nat → Bool) :
    t.Awaits config.exitWaitRetries.toNat answers (t.acquire thread callerClass answers).1
      (t.acquire thread callerClass answers).2 := by
  have hattempts := t.acquire_attempts thread callerClass answers
  generalize t.acquire thread callerClass answers = result at hattempts
  obtain ⟨answer, t'⟩ := result
  cases hattempts with
  | refused turns =>
    obtain ⟨channel, running, turn, _, _, rfl⟩ := turns
    exact ⟨rfl, rfl, rfl⟩
  | waits => exact ⟨rfl, rfl, rfl⟩
  | starts free turn =>
    refine ⟨h.unmarked turn, ?_⟩
    rw [Session.WaitsOut, Session.watched?, h.unmarked turn]
    exact ⟨rfl, rfl, rfl⟩
  | granted session free turns started =>
    have hready : Ready config { session } := h.free_of_turns turns
    have hwaits := session.awaitExit_waitsOut answers
    rw [hready.config] at hwaits
    exact ⟨session.exiting_awaitExit answers, hwaits.of_turns turns⟩

theorem Ready.exit_fails (h : t.Ready config) {t' : Token} {e : TokenError}
    (hexit : t.exitThread = (.error e, t')) :
    t'.session.schedule.exiting = t.session.schedule.exiting ∧
      t'.session.identities = t.session.identities := by
  cases hholder : t.holder with
  | none =>
    rw [Token.exitThread, giveUp_of_free hholder] at hexit
    cases hexit
    exact ⟨rfl, rfl⟩
  | some holder =>
    rw [Token.exitThread, giveUp_of_held hholder] at hexit
    rcases Session.exitThread_cases h.active holder with
      ⟨reason, s', hfails, channel, running, turn, _, _, rfl⟩ | ⟨s', _, hsucceeds⟩
    · rw [hfails] at hexit
      cases hexit
      exact ⟨rfl, rfl⟩
    · rw [hsucceeds] at hexit
      cases hexit

theorem ready_of_opened {session : Session} (h : session.Opened) :
    Ready session.config { session } := by
  have hnobody : ¬(none : Option ThreadId).isSome := Bool.false_ne_true
  cases h <;>
    exact ⟨rfl, rfl, fun hsome => (hnobody (or_self_iff.mp hsome)).elim,
      fun hsome => (hnobody hsome).elim⟩

/-- From its exit until somebody is let run, and no longer, a thread is marked. Who is let run then
polls its probe until it sees the exit, or once more than it may be asked again, and leaves nobody
marked. Nothing else polls or clears the mark, and an exit that fails sets none. -/
theorem exiting_iff_departed {session : Session} (hopened : session.Opened) {steps : List Step}
    {outcomes : List Outcome} {t : Token}
    (hrun : ({ session } : Token).run steps = (outcomes, t)) :
    (∀ thread, t.session.schedule.exiting = some thread ↔
      ({ session } : Token).Departed steps thread) ∧
    (t.holder.isSome → t.session.schedule.exiting = none) ∧
    (∀ thread callerClass answers answer t',
      t.acquire thread callerClass answers = (answer, t') →
      t.Awaits session.config.exitWaitRetries.toNat answers answer t' ∧
      ∀ answers', (∀ probe, ∀ i < polls answer, answers' probe i = answers probe i) →
        t.acquire thread callerClass answers' = (answer, t')) ∧
    ∀ e t', t.exitThread = (.error e, t') →
      t'.session.schedule.exiting = t.session.schedule.exiting ∧
        t'.session.identities = t.session.identities := by
  have hstart := ready_of_opened hopened
  have hlast : (({ session } : Token).run steps).2 = t := congrArg Prod.snd hrun
  have hready := hlast ▸ hstart.run steps
  refine ⟨?_, hready.free, ?_, ?_⟩
  · intro thread
    rw [← hlast, hstart.exiting_run]
    have hnone : session.schedule.exiting = none := by cases hopened <;> rfl
    constructor
    · rintro (hdeparted | ⟨hmarked, _⟩)
      · exact hdeparted
      · cases hnone.symm.trans hmarked
    · exact .inl
  · intro thread callerClass answers answer t' hacquire
    have hawaits := hready.awaits thread callerClass answers
    have hcongr (answers' : ExitProbe → Nat → Bool) :
        (∀ probe, ∀ i < polls (t.acquire thread callerClass answers).1,
          answers' probe i = answers probe i) →
        t.acquire thread callerClass answers' = t.acquire thread callerClass answers :=
      acquire_congr
    rw [hacquire] at hawaits hcongr
    exact ⟨hawaits, hcongr⟩
  · exact fun e t' hexit => hready.exit_fails hexit

/-- A recording in which the exit of a thread is asked for three times more. -/
def patient : Token := { session := (Session.recording {} { exitWaitRetries := 3 }).withLayout .x86 }

/-- The main thread runs, and then one that can be asked whether it is gone stops for good. -/
def farewell : List Step :=
  [.acquire .main .normal fun _ _ => true, .call (.registerProbe ⟨2⟩ ⟨7⟩), .release (.ofBytes [1]),
    .acquire ⟨2⟩ .normal fun _ _ => true, .exitThread]

theorem exiting_iff_departed_farewell :
    patient.session.Opened ∧
    patient.run farewell = ((patient.run farewell).1, (patient.run farewell).2) ∧
    patient.Departed farewell ⟨2⟩ ∧
    ∃ t', (patient.run farewell).2.acquire .main .normal (fun _ _ => false) =
        (.ok (.granted (some ⟨⟨2⟩, ⟨7⟩, ⟨4, false⟩⟩)), t') ∧
      t'.session.schedule.exiting = none ∧
      t'.session.warnings = [.stillExiting ⟨2⟩] := by
  have hopened : patient.session.Opened := .recording {} { exitWaitRetries := 3 } .x86
  have hrun : patient.run farewell = ((patient.run farewell).1, (patient.run farewell).2) := rfl
  obtain ⟨hmarked, _, hawaits, _⟩ := exiting_iff_departed hopened hrun
  have hdeparted := (hmarked ⟨2⟩).mp (by decide +kernel)
  have hanswer : ((patient.run farewell).2.acquire .main .normal fun _ _ => false).1 =
      .ok (.granted (some ⟨⟨2⟩, ⟨7⟩, ⟨4, false⟩⟩)) := by decide +kernel
  have hacquire : (patient.run farewell).2.acquire .main .normal (fun _ _ => false) =
      (.ok (.granted (some ⟨⟨2⟩, ⟨7⟩, ⟨4, false⟩⟩)),
        ((patient.run farewell).2.acquire .main .normal fun _ _ => false).2) := by rw [← hanswer]
  obtain ⟨⟨hnobody, hwaits⟩, _⟩ := hawaits _ _ _ _ _ hacquire
  have hwatched : (patient.run farewell).2.session.watched? = some (⟨2⟩, ⟨7⟩) := by decide +kernel
  rw [Session.WaitsOut, hwatched] at hwaits
  obtain ⟨polled, hpolled, hpolls⟩ := hwaits
  refine ⟨hopened, hrun, hdeparted, _, hacquire, hnobody, ?_⟩
  rw [hpolls.warned, if_neg (by decide)]
  decide +kernel

end Token

end Retrace
