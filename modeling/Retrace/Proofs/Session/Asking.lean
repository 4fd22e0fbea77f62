import Retrace.Proofs.Session.Occupancy
import Retrace.Proofs.Session.TurnEnd

namespace Retrace

open Log

namespace Session

theorem ask_of_replays {s : Session} (h : s.Replays) (thread : ThreadId)
    (callerClass : CallerClass) :
    s.ask thread callerClass = (s.schedule.answer thread callerClass, s) := by
  rw [ask, h.mode_eq]

/-- Waiting for a thread that stopped for good may report it and takes its probe, and no more. -/
theorem awaitExit_frame (s : Session) (answers : ExitProbe → Nat → Bool) :
    ∃ identities warnings,
      (s.awaitExit answers).2 =
        { s with schedule := { s.schedule with exiting := none }, identities, warnings } ∧
      ∀ slot, identities.occupies slot = s.identities.occupies slot := by
  obtain ⟨config, channel, running, ⟨turn, exiting⟩, identities, verifier, mismatches, summary,
    warnings⟩ := s
  rw [awaitExit, Schedule.takeExiting]
  dsimp only
  cases exiting with
  | none => exact ⟨identities, warnings, rfl, fun _ => rfl⟩
  | some thread =>
    have htaken := identities.occupies_takeProbe thread
    dsimp only
    split
    · exact ⟨identities, warnings, rfl, fun _ => rfl⟩
    · split <;> rename_i htake
      · exact ⟨identities, warnings, rfl, fun _ => rfl⟩
      · rw [htake] at htaken
        dsimp only
        split
        · exact ⟨_, _, rfl, htaken⟩
        · exact ⟨_, _, rfl, htaken⟩

end Session

theorem ThreadId.isMain_iff {thread : ThreadId} : thread.isMain = true ↔ thread = .main := by
  obtain ⟨slot⟩ := thread
  simp [isMain, main]

namespace Token

/-- A thread was let run, and has the token. Nothing was read. -/
structure LetsRun (t : Token) (thread : ThreadId) (turn : Turn) (t' : Token) : Prop where
  holder : t'.holder = some thread
  running : t'.session.running = thread
  turn : t'.session.schedule.turn = turn
  channel : t'.session.channel = t.session.channel
  verifier : t'.session.verifier = t.session.verifier
  summary : t'.session.summary = t.session.summary
  occupies : ∀ slot, t'.session.identities.occupies slot = t.session.identities.occupies slot

/-- The answer to a thread that asks to run while nobody does, in a session that replays a log. -/
def Answers (t : Token) (thread : ThreadId) (callerClass : CallerClass)
    (answer : Except TokenError Grant) (t' : Token) : Prop :=
  match t.session.schedule.turn with
  | .notStarted =>
    if thread = .main then answer = .ok (.granted none) ∧ t.LetsRun thread (.scheduled .main .normal) t'
    else answer = .error (.session (.firstAcquireNotMain thread)) ∧ t' = t
  | .scheduled next recorded =>
    if thread ≠ next then answer = .ok .notYet ∧ t' = t
    else if callerClass ≠ recorded then
      answer = .error (.session (.callerClassMismatch thread callerClass recorded)) ∧ t' = t
    else (∃ wait, answer = .ok (.granted wait)) ∧ t.LetsRun thread (.scheduled next recorded) t'
  | .exhausted => answer = .error (.session (.scheduleExhausted thread)) ∧ t' = t

theorem letsRun_of_awaitExit {t : Token} {s : Session} {thread : ThreadId} {turn : Turn}
    (hturn : s.schedule.turn = turn) (hchannel : s.channel = t.session.channel)
    (hverifier : s.verifier = t.session.verifier) (hsummary : s.summary = t.session.summary)
    (hidentities : s.identities = t.session.identities) (answers : ExitProbe → Nat → Bool) :
    t.LetsRun thread turn
      { session := (Session.awaitExit { s with running := thread } answers).2,
        holder := some thread } := by
  obtain ⟨identities, warnings, hframe, hoccupies⟩ :=
    Session.awaitExit_frame { s with running := thread } answers
  rw [hframe]
  refine ⟨rfl, rfl, hturn, hchannel, hverifier, hsummary, ?_⟩
  rw [← hidentities]
  exact hoccupies

/-- While a log is replayed, the thread that is awaited is let run, for the recorded reason, and nobody
else. -/
theorem acquire_answers {t : Token} (h : t.session.Replays) (hfree : t.holder = none)
    (thread : ThreadId) (callerClass : CallerClass) (answers : ExitProbe → Nat → Bool) :
    t.Answers thread callerClass (t.acquire thread callerClass answers).1
      (t.acquire thread callerClass answers).2 := by
  obtain ⟨session, holder⟩ := t
  cases hfree
  rw [acquire, if_neg (by simp), Session.enter, Session.ask_of_replays h, Schedule.answer, Answers]
  dsimp only
  cases hturn : session.schedule.turn with
  | notStarted =>
    by_cases hmain : thread = .main
    · rw [if_pos (ThreadId.isMain_iff.mpr hmain), if_pos hmain]
      exact ⟨rfl, rfl, rfl, rfl, rfl, rfl, rfl, fun _ => rfl⟩
    · rw [if_neg (fun h => hmain (ThreadId.isMain_iff.mp h)), if_neg hmain]
      exact ⟨rfl, rfl⟩
  | scheduled next recorded =>
    by_cases hnext : next = thread
    · by_cases hclass : recorded = callerClass
      · simp only [hnext, hclass, ne_eq, not_true_eq_false, ↓reduceIte]
        refine ⟨⟨_, rfl⟩, letsRun_of_awaitExit ?_ rfl rfl rfl rfl answers⟩
        rw [← hnext, ← hclass]
        exact hturn
      · simp only [hnext, hclass, Ne.symm hclass, ne_eq, not_true_eq_false, not_false_eq_true,
          ↓reduceIte, and_self]
    · simp only [hnext, Ne.symm hnext, ne_eq, not_false_eq_true, ↓reduceIte, and_self]
  | exhausted => exact ⟨rfl, rfl⟩

theorem acquire_of_notStarted {t : Token} (h : t.session.Replays) (hfree : t.holder = none)
    (hturn : t.session.schedule.turn = .notStarted) (callerClass : CallerClass)
    (answers : ExitProbe → Nat → Bool) :
    ∃ t', t.acquire .main callerClass answers = (.ok (.granted none), t') ∧
      t.LetsRun .main (.scheduled .main .normal) t' := by
  have hanswers := acquire_answers h hfree .main callerClass answers
  rw [Answers, hturn] at hanswers
  dsimp only at hanswers
  rw [if_pos rfl] at hanswers
  obtain ⟨hanswer, hruns⟩ := hanswers
  exact ⟨_, Prod.ext hanswer rfl, hruns⟩

theorem acquire_of_scheduled {t : Token} (h : t.session.Replays) (hfree : t.holder = none)
    {thread : ThreadId} {callerClass : CallerClass}
    (hturn : t.session.schedule.turn = .scheduled thread callerClass)
    (answers : ExitProbe → Nat → Bool) :
    ∃ wait t', t.acquire thread callerClass answers = (.ok (.granted wait), t') ∧
      t.LetsRun thread (.scheduled thread callerClass) t' := by
  have hanswers := acquire_answers h hfree thread callerClass answers
  rw [Answers, hturn] at hanswers
  dsimp only at hanswers
  rw [if_neg (fun hne => hne rfl), if_neg (fun hne => hne rfl)] at hanswers
  obtain ⟨⟨wait, hanswer⟩, hruns⟩ := hanswers
  exact ⟨wait, _, Prod.ext hanswer rfl, hruns⟩

end Token

end Retrace
