import Retrace.Proofs.Session.CutLog
import Retrace.Proofs.Session.Giving

namespace Retrace

open Log

instance : ReadsLog Token where
  extend tail t := { t with session := extend tail t.session }
  left t := t.session.unread
  plain t := t.session.Replays
  extend_nil t := by rw [ReadsLog.extend_nil]

inductive Outcome.RunsOut : Outcome → Prop
  | gaveUp {e : SessionError} (h : e.RunsOut) : RunsOut (.gaveUp (.error (.session e)))
  | replied {reply : Reply} {e : SessionError} (result : reply.result = .error e) (h : e.RunsOut) :
    RunsOut (.replied reply)

theorem Outcome.RunsOut.fails {outcome : Outcome} (h : outcome.RunsOut) :
    outcome.succeeds = false := by
  cases h with
  | gaveUp => rfl
  | replied result =>
    rw [succeeds, result]
    rfl

def Step.tag? : Step → Option ReleaseTag
  | .release tag => some tag
  | .exitThread => some .exitThread
  | _ => none

namespace Token

theorem acquire_extend {t : Token} (h : t.session.Replays) (tail : Bytes) (thread : ThreadId)
    (callerClass : CallerClass) (answers : ExitProbe → Nat → Bool) :
    (extend tail t).acquire thread callerClass answers =
      ((t.acquire thread callerClass answers).1,
        extend tail (t.acquire thread callerClass answers).2) := by
  have hholder : (extend tail t).holder = t.holder := rfl
  have hsession : (extend tail t).session = extend tail t.session := rfl
  have hschedule : (extend tail t.session).schedule = t.session.schedule := rfl
  rw [acquire, acquire, hholder, hsession, Session.enter, Session.enter, Session.ask_of_replays h,
    Session.ask_of_replays (h.extend tail), hschedule]
  split
  · rfl
  · rcases t.session.schedule.answer thread callerClass with e | answer
    · rfl
    · cases answer with
      | first => rfl
      | notYet => rfl
      | admitted =>
        have hrunning : ({ extend tail t.session with running := thread } : Session) =
            extend tail ({ t.session with running := thread } : Session) := rfl
        dsimp only
        rw [hrunning, Session.awaitExit_extend]
        rfl

/-- A step that ends the turn with the last bytes of the log: nobody is next. -/
structure EndsLog (t : Token) (step : Step) : Prop where
  last : ∃ (thread : ThreadId) (tag : ReleaseTag) (p : Passage), t.holder = some thread ∧
    step.tag? = some tag ∧ p.entry = .release thread tag ∧ t.session.unread = p.bytes
  outcome : (t.step step).1 = .gaveUp (.ok ())
  holder : (t.step step).2.holder = none
  replays : (t.step step).2.session.Replays
  turn : (t.step step).2.session.schedule.turn = .exhausted

/-- All that a step can do on a cut log and on the whole one. -/
inductive CutStep (tail : Bytes) (t : Token) (step : Step) : Prop
  | same (step_eq : (extend tail t).step step =
      ((t.step step).1, extend tail (t.step step).2))
  | short (ends : (t.step step).1.RunsOut)
      (beyond : (left ((extend tail t).step step).2).length < tail.length)
  | last (ends : t.EndsLog step)
      (beyond : (left ((extend tail t).step step).2).length < tail.length)

theorem turnEnd_cut {t : Token} {tail : Bytes} {step : Step} {thread : ThreadId} {tag : ReleaseTag}
    (finish : Session → ThreadId → Except SessionError Unit × Session)
    (hholder : t.holder = some thread) (htag : step.tag? = some tag)
    (hstep : ∀ t : Token, t.step step = (.gaveUp (t.giveUp finish).1, (t.giveUp finish).2))
    (hcut : Cut SessionError.RunsOut tail (finish t.session thread)
        (finish (extend tail t.session) thread) ∨
      (t.session.EndsWithTurn thread tag (finish t.session thread).1 (finish t.session thread).2 ∧
        (left (finish (extend tail t.session) thread).2).length < tail.length)) :
    CutStep tail t step := by
  have hshort : t.step step = (.gaveUp ((finish t.session thread).1.mapError .session),
      { session := (finish t.session thread).2 }) := by
    rw [hstep, giveUp_of_held hholder]
  have hwhole : (extend tail t).step step =
      (.gaveUp ((finish (extend tail t.session) thread).1.mapError .session),
        { session := (finish (extend tail t.session) thread).2 }) := by
    have hheld : (extend tail t).holder = some thread := hholder
    rw [hstep, giveUp_of_held hheld]
    rfl
  rcases hcut with hcut | ⟨⟨⟨p, hentry, hunread⟩, hok, hreplays, hturn⟩, hbeyond⟩
  · generalize finish t.session thread = short,
      finish (extend tail t.session) thread = whole at hcut hshort hwhole
    cases hcut with
    | same result =>
      apply CutStep.same
      rw [hshort, hwhole]
      rfl
    | short hends _ hbeyond =>
      apply CutStep.short
      · rw [hshort]
        exact .gaveUp hends
      · rw [hwhole]
        exact hbeyond
  · apply CutStep.last
    · constructor
      case last => exact ⟨thread, tag, p, hholder, htag, hentry, hunread⟩
      case outcome =>
        rw [hshort, hok]
        rfl
      case holder => rw [hshort]
      case replays =>
        rw [hshort]
        exact hreplays
      case turn =>
        rw [hshort]
        exact hturn
    · rw [hwhole]
      exact hbeyond

theorem step_cut {t : Token} (h : t.session.Replays) (tail : Bytes) (step : Step) :
    CutStep tail t step := by
  have hfree (hholder : t.holder = none)
      (finish : Session → ThreadId → Except SessionError Unit × Session)
      (hstep : ∀ t : Token, t.step step = (.gaveUp (t.giveUp finish).1, (t.giveUp finish).2)) :
      CutStep tail t step := by
    have hholder' : (extend tail t).holder = none := hholder
    apply CutStep.same
    rw [hstep, hstep, giveUp_of_free hholder, giveUp_of_free hholder']
  cases step with
  | acquire thread callerClass answers =>
    apply CutStep.same
    rw [Token.step, Token.step, acquire_extend h]
  | drop =>
    cases hholder : t.holder with
    | none => exact hfree hholder (fun session _ => (.ok (), session)) fun _ => rfl
    | some thread =>
      have hheld : (extend tail t).holder = some thread := hholder
      apply CutStep.same
      rw [Token.step, Token.step, drop, drop, giveUp_of_held hholder, giveUp_of_held hheld]
      rfl
  | release tag =>
    cases hholder : t.holder with
    | none => exact hfree hholder (fun session thread => session.release thread tag) fun _ => rfl
    | some thread =>
      exact turnEnd_cut (fun session thread => session.release thread tag) hholder rfl
        (fun _ => rfl) (Session.release_cut h tail thread tag)
  | exitThread =>
    cases hholder : t.holder with
    | none => exact hfree hholder Session.exitThread fun _ => rfl
    | some thread =>
      exact turnEnd_cut Session.exitThread hholder rfl (fun _ => rfl)
        (Session.exitThread_cut h tail thread)
  | call call =>
    rcases Session.perform_cut h tail call with hsame | ⟨⟨e, hresult, hends⟩, hbeyond⟩
    · apply CutStep.same
      have hsession : (extend tail t).session = extend tail t.session := rfl
      rw [Token.step, Token.step, hsession, hsame]
      rfl
    · exact .short (.replied hresult hends) hbeyond

theorem step_left_le {t : Token} (h : t.session.Replays) (step : Step) :
    (left (t.step step).2).length ≤ (left t).length := by
  obtain ⟨read, count, hreads, _⟩ := step_reads h step
  exact Session.left_le_of_reads hreads

theorem run_left_le {t : Token} (h : t.session.Replays) (steps : List Step) :
    (left (t.run steps).2).length ≤ (left t).length := by
  induction steps generalizing t with
  | nil => exact Nat.le_refl _
  | cons step rest ih => exact Nat.le_trans (ih (step_replays h step)) (step_left_le h step)

theorem replays_extend {t : Token} (h : t.session.Replays) (tail : Bytes) :
    (extend tail t).session.Replays := Session.Replays.extend h tail

/-- As long as nothing is read beyond the cut, the cut log is as good as the whole one. -/
theorem run_cut {t : Token} (h : t.session.Replays) (tail : Bytes) (steps : List Step)
    (hwithin : tail.length ≤ (left ((extend tail t).run steps).2).length) :
    (extend tail t).run steps = ((t.run steps).1, extend tail (t.run steps).2) := by
  induction steps generalizing t with
  | nil => rfl
  | cons step rest ih =>
    have hwhole := step_replays (replays_extend h tail) step
    have hleft := run_left_le hwhole rest
    have hnot : ¬(left ((extend tail t).step step).2).length < tail.length :=
      Nat.not_lt.mpr (Nat.le_trans hwithin hleft)
    cases step_cut h tail step with
    | same hstep =>
      rw [run, hstep] at hwithin
      rw [run, run, hstep]
      dsimp only at hwithin ⊢
      rw [ih (step_replays h step) hwithin]
    | short _ hbeyond => exact (hnot hbeyond).elim
    | last _ hbeyond => exact (hnot hbeyond).elim

theorem refused_of_exhausted {t : Token} (h : t.session.Replays) (hfree : t.holder = none)
    (hturn : t.session.schedule.turn = .exhausted) (later : List Step) (thread : ThreadId)
    (callerClass : CallerClass) (answers : ExitProbe → Nat → Bool) :
    ((t.run later).2.acquire thread callerClass answers).1 =
      .error (.session (.scheduleExhausted thread)) := by
  induction later generalizing t with
  | nil =>
    have hanswers := acquire_answers h hfree thread callerClass answers
    rw [Answers, hturn] at hanswers
    exact hanswers.1
  | cons step rest ih =>
    cases step_moves h (.inl hfree) with
    | stays _ _ holder turn =>
      exact ih (step_replays h step) (holder.trans hfree) (turn.trans hturn)
    | starts _ notStarted => cases hturn.symm.trans notStarted
    | letsRun _ scheduled => cases hturn.symm.trans scheduled
    | handsOn held =>
      rw [hfree] at held
      cases held
    | ends held =>
      rw [hfree] at held
      cases held

theorem run_replays {t : Token} (h : t.session.Replays) (steps : List Step) :
    (t.run steps).2.session.Replays := by
  induction steps generalizing t with
  | nil => exact h
  | cons step rest ih => exact ih (step_replays h step)

theorem left_extend {t : Token} (h : t.session.Replays) (tail : Bytes) :
    left (extend tail t) = left t ++ tail := by
  obtain ⟨rest, offset, resolved, hs⟩ := h
  change (extend tail t.session).unread = t.session.unread ++ tail
  rw [Session.unread, Session.unread, Session.channel_extend hs, hs]
  rfl

/-- A replay of a cut log agrees with the replay of the whole log up to the cut. The first step that
reads beyond the cut fails at the end of the cut log, or it ends a turn with the last bytes there, and
nobody is let run from then on. What a call gives on the cut log stands in the cut log. -/
theorem replay_of_cut (log tail : Bytes) (config : Config) (layout : Guest.RegisterLayout)
    (front : List Step) :
    let short := (replaying log config layout).run front
    let whole := (replaying (log ++ tail) config layout).run front
    (tail.length ≤ whole.2.session.unread.length →
      whole.1 = short.1 ∧ whole.2.holder = short.2.holder ∧
      whole.2.session.schedule.turn = short.2.session.schedule.turn ∧
      whole.2.session.running = short.2.session.running ∧
      whole.2.session.divergence = short.2.session.divergence ∧
      ∀ step, (whole.2.step step).2.session.unread.length < tail.length →
        (short.2.step step).1.RunsOut ∨
          (short.2.EndsLog step ∧ ∀ later thread callerClass answers,
            (((short.2.step step).2.run later).2.acquire thread callerClass answers).1 =
              .error (.session (.scheduleExhausted thread)))) ∧
    ∀ call, (short.2.session.perform call).1.result.isOk →
      ∃ before passages,
        log = before ++ Passage.join passages ++ (short.2.session.perform call).2.unread ∧
        call.Gives passages (short.2.session.perform call).1 := by
  intro short whole
  have hreplays := replaying_replays log config layout
  have hshort : short.2.session.Replays := run_replays hreplays front
  constructor
  · intro hwithin
    have hrun : whole = (short.1, extend tail short.2) := run_cut hreplays tail front hwithin
    rw [hrun]
    refine ⟨rfl, rfl, rfl, rfl, rfl, ?_⟩
    intro step hbeyond
    cases step_cut hshort tail step with
    | same hstep =>
      have hleft := left_extend (step_replays hshort step) tail
      rw [hstep] at hbeyond
      have hlength : (left (extend tail (short.2.step step).2)).length < tail.length := hbeyond
      rw [hleft, List.length_append] at hlength
      omega
    | short hends => exact .inl hends
    | last hends =>
      exact .inr ⟨hends, refused_of_exhausted hends.replays hends.holder hends.turn⟩
  · intro call hok
    obtain ⟨passages, htakes, hgives⟩ := Session.perform_gives hshort hok
    have hunread : log = ((replaying log config layout).readings front).flatten ++
        short.2.session.unread := run_unread hreplays front
    refine ⟨((replaying log config layout).readings front).flatten, passages, ?_, hgives⟩
    rw [List.append_assoc, ← htakes.unread]
    exact hunread

def mainRuns : List Step := [.acquire .main .normal fun _ _ => true]

/-- A log that is cut off between two turns: the first turn ends, and nobody runs any more. -/
theorem replay_of_cut_betweenTurns :
    let first := (Entry.release .main (.ofBytes [1])).encode
    let second := (Entry.acquire ⟨2⟩ .preempt).encode
    let short := (replaying first {} .x86).run mainRuns
    let whole := (replaying (first ++ second) {} .x86).run mainRuns
    whole.1 = short.1 ∧
      short.2.EndsLog (.release (.ofBytes [1])) ∧
      ∀ later thread callerClass answers,
        (((short.2.step (.release (.ofBytes [1]))).2.run later).2.acquire thread callerClass
          answers).1 = .error (.session (.scheduleExhausted thread)) := by
  intro first second short whole
  have hwithin : second.length ≤ whole.2.session.unread.length := by decide +kernel
  have hbeyond : (whole.2.step (.release (.ofBytes [1]))).2.session.unread.length <
      second.length := by decide +kernel
  have hended : (short.2.step (.release (.ofBytes [1]))).1.succeeds := by decide +kernel
  obtain ⟨hsame, _, _, _, _, hstep⟩ := (replay_of_cut first second {} .x86 mainRuns).1 hwithin
  rcases hstep _ hbeyond with hends | ⟨hends, hlater⟩
  · rw [hends.fails] at hended
    cases hended
  · exact ⟨hsame, hends, hlater⟩

end Token

end Retrace
