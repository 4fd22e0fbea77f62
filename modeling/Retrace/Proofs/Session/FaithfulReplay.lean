import Retrace.Proofs.Session.Consumption
import Retrace.Proofs.Session.LookAhead

namespace Retrace

open Log

/-- Where a program is: in front of its first turn, in a turn, or between two turns. -/
inductive Phase
  | setup
  | running
  | between
  deriving DecidableEq

/-- How far a program came: where it is, who ran last, and which slots it filled with threads that
have not stopped since. -/
structure Progress where
  phase : Phase := .setup
  runner : ThreadId := .nobody
  filled : List ThreadId := []
  deriving DecidableEq

namespace Progress

/-- A call fills a free slot or none, brings a command line that is not empty, and closes nothing. -/
def call? (g : Progress) (call : Call) : Option Progress :=
  match call with
  | .clientCmdline live => if live.joined = "" then none else some g
  | .threadCreate _ child _ =>
    if child.isValid ∧ child.index < slotLimit ∧ child ∉ g.filled then
      some { g with filled := child :: g.filled }
    else none
  | .close => none
  | _ => some g

/-- The program makes its calls in front of its first turn and in its turns. Threads whose slots are in
the tables take turns, and each ends its turn with a word in the log. -/
def next? (g : Progress) (step : Step) : Option Progress :=
  match step with
  | .acquire thread _ _ =>
    if g.phase ≠ .running ∧ thread.index < slotLimit then
      some { g with phase := .running, runner := thread }
    else none
  | .release _ => if g.phase = .running then some { g with phase := .between } else none
  | .exitThread =>
    if g.phase = .running then
      some { g with phase := .between, filled := g.filled.filter (· ≠ g.runner) }
    else none
  | .drop => none
  | .call call => if g.phase = .between then none else g.call? call

def reach? (g : Progress) : List Step → Option Progress
  | [] => some g
  | step :: rest => (g.next? step).bind (·.reach? rest)

theorem call?_eq_some {g g' : Progress} {call : Call} (h : g.call? call = some g') :
    g' = { g with filled := call.fills ++ g.filled } ∧ call ≠ .close ∧
      (∀ text, call = .clientCmdline text → text.joined ≠ "") ∧
      ∀ slot ∈ call.fills, slot.isValid ∧ slot.index < slotLimit ∧ slot ∉ g.filled := by
  cases call with
  | clientCmdline live =>
    rw [call?] at h
    split at h
    · cases h
    · rename_i hne
      cases h
      refine ⟨rfl, nofun, ?_, nofun⟩
      rintro _ ⟨⟩
      exact hne
  | threadCreate parent child kernel =>
    rw [call?] at h
    split at h
    · rename_i hfree
      cases h
      refine ⟨rfl, nofun, nofun, ?_⟩
      intro slot hslot
      cases List.mem_singleton.mp hslot
      exact hfree
    · cases h
  | close => cases h
  | _ =>
    cases h
    exact ⟨rfl, nofun, nofun, nofun⟩

end Progress

inductive Step.Alike : Step → Step → Prop
  | acquire (thread : ThreadId) (callerClass : CallerClass)
    (answers answers' : ExitProbe → Nat → Bool) :
    Alike (.acquire thread callerClass answers) (.acquire thread callerClass answers')
  | release (tag : ReleaseTag) : Alike (.release tag) (.release tag)
  | exitThread : Alike .exitThread .exitThread
  | call {recorded live : Call} (h : recorded.Alike live) : Alike (.call recorded) (.call live)

/-- What a replay leaves of a live step, given the recorded one: a thread is let run, a turn ends, and
a call gives back the recorded values. -/
def Step.Replayed : Step → Step → Outcome → Prop
  | .call recorded, .call live, outcome => outcome = .replied (recorded.replayed live)
  | .acquire .., _, outcome => ∃ wait, outcome = .asked (.ok (.granted wait))
  | _, _, outcome => outcome = .gaveUp (.ok ())

theorem Step.Replayed.succeeds {recorded live : Step} {outcome : Outcome}
    (h : recorded.Replayed live outcome) : outcome.succeeds := by
  cases recorded with
  | acquire =>
    obtain ⟨wait, rfl⟩ := h
    rfl
  | call recorded =>
    cases live with
    | call live =>
      cases h
      cases recorded <;> cases live <;> rfl
    | _ =>
      cases h
      rfl
  | _ =>
    cases h
    rfl

theorem succeeds_of_replayed {steps : List (Step × Step)} {outcomes : List Outcome}
    (h : List.Forall₂ (fun steps outcome => Step.Replayed steps.1 steps.2 outcome) steps outcomes) :
    outcomes.all (·.succeeds) := by
  induction h with
  | nil => rfl
  | cons hstep _ ih => exact Bool.and_eq_true_iff.mpr ⟨hstep.succeeds, ih⟩

def Session.held (s : Session) : Bytes :=
  match s.channel with
  | .record writer => writer.sink.held
  | _ => []

namespace Token

def recording (sink : Sink) (config : Config) (layout : Guest.RegisterLayout) : Token where
  session := (Session.recording sink config).withLayout layout

/-- What is recorded of a program as far as it came. -/
structure Recorded (g : Progress) (t : Token) : Prop where
  records : t.session.Records
  holder : t.holder = if g.phase = .running then some g.runner else none
  started : t.session.schedule.turn = .notStarted ↔ g.phase = .setup

/-- How a replay stands to the bytes that are recorded from here on: in front of them, or between two
turns, where it has read ahead. -/
inductive Position (g : Progress) (turn : Turn) : Bytes → Bytes → Nat → Prop
  | setup (out : Bytes) (phase : g.phase = .setup) (notStarted : turn = .notStarted) :
    Position g turn out out 0
  | running (out : Bytes) (phase : g.phase = .running) : Position g turn out out 0
  | between {out rest : Bytes} {count : Nat} (phase : g.phase = .between)
    (ahead : ReadsAhead out turn rest count) : Position g turn out rest count

/-- A replay that is as far as the recorded run. -/
structure Mirrors (g : Progress) (out : Bytes) (t t' : Token) (rest : Bytes) (ahead : Nat) :
    Prop where
  position : Position g t'.session.schedule.turn out rest ahead
  faces : t'.session.Faces rest g.filled
  entries : t'.session.channel.entries = t.session.channel.entries + ahead
  running : t'.session.running = t.session.running
  holder : t'.holder = t.holder
  layout : t'.session.verifier.layout = t.session.verifier.layout

def Opens (out : Bytes) : Prop := ∃ turn rest count, ReadsAhead out turn rest count

/-- A recorded step wrote some passages, and a replay that is as far follows it over them. -/
structure Simulates (g g' : Progress) (step : Step) (t : Token) (passages : List Passage) :
    Prop where
  recorded : Recorded g' (t.step step).2
  writes : t.session.channel.Writes passages (t.step step).2.session.channel
  opens : g.phase = .between → ∀ tail, Opens (Passage.join passages ++ tail)
  follows : ∀ {live : Step} {t' : Token} {tail rest : Bytes} {ahead : Nat}, step.Alike live →
    (g'.phase = .between → Opens tail) →
    Mirrors g (Passage.join passages ++ tail) t t' rest ahead →
    step.Replayed live (t'.step live).1 ∧
      ∃ rest' ahead', Mirrors g' tail (t.step step).2 (t'.step live).2 rest' ahead'

theorem Position.eq_of_ne {g : Progress} {turn : Turn} {out rest : Bytes} {ahead : Nat}
    (h : Position g turn out rest ahead) (hphase : g.phase ≠ .between) :
    rest = out ∧ ahead = 0 := by
  cases h with
  | setup => exact ⟨rfl, rfl⟩
  | running => exact ⟨rfl, rfl⟩
  | between phase => exact (hphase phase).elim

theorem Position.of_setup {g : Progress} {turn : Turn} {out rest : Bytes} {ahead : Nat}
    (h : Position g turn out rest ahead) (hphase : g.phase = .setup) :
    rest = out ∧ ahead = 0 ∧ turn = .notStarted := by
  cases h with
  | setup _ notStarted => exact ⟨rfl, rfl, notStarted⟩
  | running phase => cases hphase.symm.trans phase
  | between phase => cases hphase.symm.trans phase

theorem Position.of_between {g : Progress} {turn : Turn} {out rest : Bytes} {ahead : Nat}
    (h : Position g turn out rest ahead) (hphase : g.phase = .between) :
    ReadsAhead out turn rest ahead := by
  cases h with
  | setup phase => cases hphase.symm.trans phase
  | running phase => cases hphase.symm.trans phase
  | between _ ahead => exact ahead

theorem Position.moves {g g' : Progress} {turn : Turn} {out rest : Bytes} {ahead : Nat}
    (h : Position g turn out rest ahead) (hphase : g.phase ≠ .between)
    (hsame : g.phase = g'.phase) (tail : Bytes) : Position g' turn tail tail 0 := by
  cases h with
  | setup phase notStarted => exact .setup tail (hsame.symm.trans phase) notStarted
  | running phase => exact .running tail (hsame.symm.trans phase)
  | between phase => exact (hphase phase).elim

theorem call_simulates {g g' : Progress} {t : Token} {call : Call} (hrecorded : Recorded g t)
    (hnext : g.next? (.call call) = some g') (hok : (t.step (.call call)).1.succeeds) :
    ∃ passages, Simulates g g' (.call call) t passages := by
  rw [Progress.next?] at hnext
  split at hnext
  · cases hnext
  · rename_i hphase
    obtain ⟨rfl, hclose, hcmdline, hfree⟩ := Progress.call?_eq_some hnext
    obtain ⟨passages, hlogs, hwrites⟩ := Session.perform_logs hrecorded.records hclose hok
    refine ⟨passages, ⟨hwrites.records, hrecorded.holder, ?_⟩, hwrites.channel,
      fun h => (hphase h).elim, ?_⟩
    · have hstarted := hrecorded.started
      rw [← hwrites.schedule] at hstarted
      exact hstarted
    · intro live t' tail rest ahead halike _ h
      cases halike with
      | @call _ live halike =>
        obtain ⟨rfl, rfl⟩ := h.position.eq_of_ne hphase
        rw [← h.running, ← h.layout] at hlogs
        rw [← halike.fills_eq] at hfree ⊢
        obtain ⟨s', hcall, hreaches⟩ :=
          Session.perform_replays hlogs halike h.faces hcmdline hfree
        have hstep : t'.step (.call live) =
            (.replied (call.replayed live), { t' with session := s' }) := by
          rw [step, hcall]
        rw [hstep]
        refine ⟨rfl, tail, 0, ?_, hreaches.faces, ?_, ?_, h.holder, ?_⟩
        · have hposition := h.position
          rw [← hreaches.schedule] at hposition
          refine hposition.moves hphase ?_ tail
          rfl
        · have hentries := hwrites.channel.entries_eq
          rw [← Nat.add_zero t.session.channel.entries, ← h.entries, ← hreaches.entries] at hentries
          exact hentries.symm
        · exact hreaches.running.trans (h.running.trans hwrites.running.symm)
        · exact hreaches.layout.trans (h.layout.trans hwrites.layout.symm)

theorem LetsRun.faces {t t' : Token} {thread : ThreadId} {turn : Turn} {rest : Bytes}
    {filled : List ThreadId} (h : t.LetsRun thread turn t') (hfaces : t.session.Faces rest filled) :
    t'.session.Faces rest filled := by
  refine ⟨?_, ?_, ?_⟩
  · rw [h.channel]
    exact hfaces.channel
  · rw [Session.isClosed, h.summary]
    exact hfaces.notClosed
  · intro slot hslot
    exact hfaces.occupied slot ((h.occupies slot).symm.trans hslot)

theorem Admits.mirrored {g : Progress} {t t₁ t' t₁' : Token} {thread : ThreadId} {turn : Turn}
    {passages : List Passage} {rest : Bytes} (hadmits : t.Admits thread passages t₁)
    (hruns : t'.LetsRun thread turn t₁') (hfaces : t'.session.Faces rest g.filled)
    (hentries : t'.session.channel.entries = t.session.channel.entries + passages.length)
    (hlayout : t'.session.verifier.layout = t.session.verifier.layout) :
    Mirrors { g with phase := .running, runner := thread } rest t₁ t₁' rest 0 where
  position := .running rest rfl
  faces := hruns.faces hfaces
  entries := by rw [hruns.channel, hentries, ← hadmits.channel.entries_eq, Nat.add_zero]
  running := hruns.running.trans hadmits.running.symm
  holder := hruns.holder.trans hadmits.holder.symm
  layout := by rw [hruns.verifier, hlayout, hadmits.layout]

theorem acquire_simulates {g g' : Progress} {t : Token} {thread : ThreadId}
    {callerClass : CallerClass} {answers : ExitProbe → Nat → Bool} (hrecorded : Recorded g t)
    (hnext : g.next? (.acquire thread callerClass answers) = some g')
    (hok : (t.step (.acquire thread callerClass answers)).1.succeeds) :
    ∃ passages, Simulates g g' (.acquire thread callerClass answers) t passages := by
  rw [Progress.next?] at hnext
  split at hnext
  · rename_i hallowed
    obtain ⟨hphase, hslot⟩ := hallowed
    cases hnext
    have hfree : t.holder = none := by
      rw [hrecorded.holder, if_neg hphase]
    obtain ⟨passages, hadmits, hlogged⟩ := acquire_admits hrecorded.records hfree hok
    refine ⟨passages, ⟨?_, ?_, ?_⟩, hadmits.channel, ?_, ?_⟩
    · obtain ⟨_, w, _, hw, _⟩ := hadmits.channel
      exact ⟨w, hw⟩
    · exact hadmits.holder
    · exact ⟨fun h => (hadmits.started h).elim, nofun⟩
    · intro hbetween tail
      rcases hlogged with ⟨hturn, _⟩ | ⟨_, p, rfl, hp⟩
      · cases (hrecorded.started.mp hturn).symm.trans hbetween
      · refine ⟨.scheduled thread callerClass, tail, 1, ?_⟩
        rw [Passage.join_singleton]
        exact .next tail hp hslot
    · intro live t' tail rest ahead halike _ h
      cases halike with
      | acquire _ _ _ answers' =>
        have hfree' : t'.holder = none := h.holder.trans hfree
        rcases hlogged with ⟨hturn, rfl, rfl⟩ | ⟨hturn, p, rfl, hp⟩
        -- The first turn is in no log, and every other one was read at the end of the turn before.
        · have hsetup := hrecorded.started.mp hturn
          obtain ⟨rfl, rfl, hturn'⟩ := h.position.of_setup hsetup
          obtain ⟨t₁', hacquire, hruns⟩ :=
            acquire_of_notStarted h.faces.replays hfree' hturn' callerClass answers'
          rw [step, hacquire]
          exact ⟨⟨none, rfl⟩, _, 0, hadmits.mirrored hruns h.faces h.entries h.layout⟩
        · have hbetween : g.phase = .between := by
            cases hg : g.phase with
            | setup => exact (hturn (hrecorded.started.mpr hg)).elim
            | running => exact (hphase hg).elim
            | between => rfl
          have hahead := h.position.of_between hbetween
          rw [Passage.join_singleton] at hahead
          obtain ⟨hturn', rfl, rfl⟩ := hahead.passage hp
          obtain ⟨wait, t₁', hacquire, hruns⟩ :=
            acquire_of_scheduled h.faces.replays hfree' hturn' answers'
          rw [step, hacquire]
          exact ⟨⟨wait, rfl⟩, rest, 0, hadmits.mirrored hruns h.faces h.entries h.layout⟩
  · cases hnext

theorem turnEnd_simulates {g g' : Progress} {t : Token} {step : Step} {tag : ReleaseTag}
    {s₁ : Session} (hrecorded : Recorded g t) (hphase : g.phase = .running)
    (hphase' : g'.phase = .between) (hends : t.session.LogsEnd g.runner tag s₁)
    (hstep : (t.step step).2 = { session := s₁ })
    (halike : ∀ {live : Step}, step.Alike live →
      live = step ∧ step.Replayed live (.gaveUp (.ok ())))
    (hreplays : ∀ {s : Session} {p : Passage} {out rest : Bytes} {turn : Turn} {count : Nat},
      s.Faces (p.bytes ++ out) g.filled → p.logged = (.release g.runner tag, []) →
      ReadsAhead out turn rest count →
      ∃ s', ({ session := s, holder := some g.runner } : Token).step step =
          (.gaveUp (.ok ()), { session := s' }) ∧
        s.TurnsTo turn (1 + count) rest g'.filled s') :
    ∃ passages, Simulates g g' step t passages := by
  obtain ⟨p, hp, hwrites⟩ := hends.channel
  refine ⟨[p], ⟨?_, ?_, ?_⟩, ?_, ?_, ?_⟩
  · rw [hstep]
    obtain ⟨_, w, _, hw, _⟩ := hwrites
    exact ⟨w, hw⟩
  · rw [hstep, hphase']
    rfl
  · rw [hstep, hphase']
    constructor
    · intro hturn
      have hsetup := hrecorded.started.mp (hends.turn.symm.trans hturn)
      cases hphase.symm.trans hsetup
    · exact nofun
  · rw [hstep]
    exact hwrites
  · intro hbetween
    cases hphase.symm.trans hbetween
  · intro live t' tail rest ahead hlive hopens h
    obtain ⟨rfl, hreplayed⟩ := halike hlive
    obtain ⟨rfl, rfl⟩ := h.position.eq_of_ne (by rw [hphase]; exact nofun)
    obtain ⟨turn, rest, count, hahead⟩ := hopens hphase'
    obtain ⟨session, holder⟩ := t'
    have hholder : holder = some g.runner := by
      have hsame : holder = t.holder := h.holder
      rw [hsame, hrecorded.holder, if_pos hphase]
    cases hholder
    have hfaces : session.Faces (p.bytes ++ tail) g.filled := by
      have hfaces := h.faces
      rwa [Passage.join_singleton] at hfaces
    obtain ⟨s', hstep', hturns⟩ := hreplays hfaces hp hahead
    rw [hstep', hstep]
    refine ⟨hreplayed, rest, count, .between hphase' ?_, hturns.faces, ?_, ?_, rfl, ?_⟩
    · rw [hturns.turn]
      exact hahead
    · have hentries := hwrites.entries_eq
      have hsame : session.channel.entries = t.session.channel.entries := h.entries
      rw [hturns.entries, hsame, hentries, List.length_singleton, Nat.add_assoc]
    · exact hturns.running.trans hends.running.symm
    · exact hturns.layout.trans (h.layout.trans hends.layout.symm)

theorem eq_ok_of_isOk {result : Except SessionError Unit}
    (h : (result.mapError TokenError.session).isOk) : result = .ok () := by
  cases result with
  | ok => rfl
  | error e => cases h

theorem release_simulates {g g' : Progress} {t : Token} {tag : ReleaseTag}
    (hrecorded : Recorded g t) (hnext : g.next? (.release tag) = some g')
    (hok : (t.step (.release tag)).1.succeeds) :
    ∃ passages, Simulates g g' (.release tag) t passages := by
  rw [Progress.next?] at hnext
  split at hnext
  · rename_i hphase
    cases hnext
    have hholder : t.holder = some g.runner := by
      rw [hrecorded.holder, if_pos hphase]
    rw [step, release, giveUp_of_held hholder] at hok
    have hends := Session.release_logsEnd hrecorded.records (eq_ok_of_isOk hok)
    apply turnEnd_simulates hrecorded hphase rfl hends
    · rw [step, release, giveUp_of_held hholder]
    · intro live hlive
      cases hlive
      exact ⟨rfl, rfl⟩
    · intro s p out rest turn count hfaces hlogged hahead
      obtain ⟨s', hrelease, hturns⟩ := Session.release_replays hfaces hlogged hahead
      refine ⟨s', ?_, hturns⟩
      rw [step, release, giveUp_of_held rfl, hrelease]
      rfl
  · cases hnext

theorem exitThread_simulates {g g' : Progress} {t : Token} (hrecorded : Recorded g t)
    (hnext : g.next? .exitThread = some g') (hok : (t.step .exitThread).1.succeeds) :
    ∃ passages, Simulates g g' .exitThread t passages := by
  rw [Progress.next?] at hnext
  split at hnext
  · rename_i hphase
    cases hnext
    have hholder : t.holder = some g.runner := by
      rw [hrecorded.holder, if_pos hphase]
    rw [step, exitThread, giveUp_of_held hholder] at hok
    obtain ⟨hvalid, hends⟩ := Session.exitThread_logsEnd hrecorded.records (eq_ok_of_isOk hok)
    apply turnEnd_simulates hrecorded hphase rfl hends
    · rw [step, exitThread, giveUp_of_held hholder]
    · intro live hlive
      cases hlive
      exact ⟨rfl, rfl⟩
    · intro s p out rest turn count hfaces hlogged hahead
      obtain ⟨s', hexit, hturns⟩ := Session.exitThread_replays hfaces hlogged hahead hvalid
      refine ⟨s', ?_, hturns⟩
      rw [step, exitThread, giveUp_of_held rfl, hexit]
      rfl
  · cases hnext

theorem step_simulates {g g' : Progress} {t : Token} {step : Step} (hrecorded : Recorded g t)
    (hnext : g.next? step = some g') (hok : (t.step step).1.succeeds) :
    ∃ passages, Simulates g g' step t passages := by
  cases step with
  | acquire thread callerClass answers => exact acquire_simulates hrecorded hnext hok
  | release tag => exact release_simulates hrecorded hnext hok
  | exitThread => exact exitThread_simulates hrecorded hnext hok
  | drop => cases hnext
  | call call => exact call_simulates hrecorded hnext hok

/-- A recorded run, and a replay that follows it over all that it wrote. -/
theorem run_simulates {g final : Progress} {t : Token} {recorded : List Step}
    (hrecorded : Recorded g t) (hreach : g.reach? recorded = some final)
    (hok : (t.run recorded).1.all (·.succeeds)) :
    ∃ passages, t.session.channel.Writes passages (t.run recorded).2.session.channel ∧
      (g.phase = .between → Opens (Passage.join passages)) ∧
      ∀ {live : List Step} {t' : Token} {rest : Bytes} {ahead : Nat},
        List.Forall₂ Step.Alike recorded live →
        Mirrors g (Passage.join passages) t t' rest ahead →
        List.Forall₂ (fun steps outcome => Step.Replayed steps.1 steps.2 outcome)
            (recorded.zip live) (t'.run live).1 ∧
          ∃ rest' ahead',
            Mirrors final [] (t.run recorded).2 (t'.run live).2 rest' ahead' := by
  -- A replay reads ahead at the end of a turn, into what only the steps behind it write. So the
  -- induction also gives how the bytes of the rest open, which `follows` asks for.
  induction recorded generalizing g t with
  | nil =>
    cases hreach
    refine ⟨[], hrecorded.records.writes_nil.channel, fun _ => ⟨_, _, _, .ended⟩, ?_⟩
    intro live t' rest ahead halike h
    cases halike
    exact ⟨.nil, rest, ahead, h⟩
  | cons step steps ih =>
    obtain ⟨g', hnext, hreach⟩ := Option.bind_eq_some_iff.mp hreach
    obtain ⟨hstep, hsteps⟩ := Bool.and_eq_true_iff.mp hok
    obtain ⟨passages, hsimulates⟩ := step_simulates hrecorded hnext hstep
    obtain ⟨passages', hwrites, hopens, hfollows⟩ := ih hsimulates.recorded hreach hsteps
    refine ⟨passages ++ passages', hsimulates.writes.trans hwrites, ?_, ?_⟩
    · intro hbetween
      rw [Passage.join_append]
      exact hsimulates.opens hbetween _
    · intro live t' rest ahead halike h
      cases halike with
      | cons hlive hlives =>
        rw [Passage.join_append] at h
        obtain ⟨hreplayed, rest', ahead', h'⟩ := hsimulates.follows hlive hopens h
        obtain ⟨htail, hlast⟩ := hfollows hlives h'
        exact ⟨.cons hreplayed htail, hlast⟩

theorem Mirrors.last {g : Progress} {t t' : Token} {rest : Bytes} {ahead : Nat}
    (h : Mirrors g [] t t' rest ahead) :
    rest = [] ∧ ahead = 0 ∧
      (g.phase = .between → t'.session.schedule.turn = .exhausted) := by
  by_cases hbetween : g.phase = .between
  · obtain ⟨hturn, hrest, hcount⟩ := (h.position.of_between hbetween).nil
    exact ⟨hrest, hcount, fun _ => hturn⟩
  · obtain ⟨hrest, hahead⟩ := h.position.eq_of_ne hbetween
    exact ⟨hrest, hahead, fun hphase => (hbetween hphase).elim⟩

theorem held_of_writes {s s' : Session} {passages : List Passage}
    (h : s.channel.Writes passages s'.channel) : s'.held = s.held ++ Passage.join passages := by
  obtain ⟨w, w', hs, hs', hheld, _⟩ := h
  rw [Session.held, Session.held, hs, hs']
  exact hheld

/-- Whatever a program recorded in turns can be replayed. With other live values the same steps all
succeed, threads run in the same order, calls give back the recorded values, and the log is read to
its end. -/
theorem replay_of_recorded {sink : Sink} {config config' : Config} {layout : Guest.RegisterLayout}
    {recorded live : List Step} {final : Progress} {outcomes : List Outcome} {t : Token}
    (hfresh : sink.held = []) (hscript : ({} : Progress).reach? recorded = some final)
    (hrun : (recording sink config layout).run recorded = (outcomes, t))
    (hok : outcomes.all (·.succeeds)) (halike : List.Forall₂ Step.Alike recorded live) :
    ∃ outcomes' t', (replaying t.session.held config' layout).run live = (outcomes', t') ∧
      outcomes'.all (·.succeeds) ∧
      List.Forall₂ (fun steps outcome => Step.Replayed steps.1 steps.2 outcome)
        (recorded.zip live) outcomes' ∧
      t'.session.unread = [] ∧ t'.session.channel.entries = t.session.channel.entries ∧
      t'.session.running = t.session.running ∧ t'.holder = t.holder ∧
      (final.phase = .between → t'.session.schedule.turn = .exhausted) := by
  have hrecorded : Recorded {} (recording sink config layout) := by
    refine ⟨⟨_, rfl⟩, rfl, ?_⟩
    exact ⟨fun _ => rfl, fun _ => rfl⟩
  have houtcomes : ((recording sink config layout).run recorded).1 = outcomes :=
    congrArg Prod.fst hrun
  have hlast : ((recording sink config layout).run recorded).2 = t := congrArg Prod.snd hrun
  rw [← houtcomes] at hok
  obtain ⟨passages, hwrites, _, hfollows⟩ := run_simulates hrecorded hscript hok
  rw [hlast] at hwrites hfollows
  have hheld : t.session.held = Passage.join passages := by
    rw [held_of_writes hwrites]
    change sink.held ++ Passage.join passages = Passage.join passages
    rw [hfresh, List.nil_append]
  have hstart : Mirrors {} (Passage.join passages) (recording sink config layout)
      (replaying (Passage.join passages) config' layout) (Passage.join passages) 0 := by
    refine ⟨.setup _ rfl rfl, ⟨⟨0, 0, rfl⟩, rfl, ?_⟩, rfl, rfl, rfl, rfl⟩
    intro slot hslot
    cases (IdentityTable.occupies_empty slot).symm.trans hslot
  obtain ⟨hreplayed, rest, ahead, hmirrors⟩ := hfollows halike hstart
  obtain ⟨rfl, rfl, hturn⟩ := hmirrors.last
  rw [hheld]
  exact ⟨_, _, rfl, succeeds_of_replayed hreplayed, hreplayed, hmirrors.faces.unread_eq,
    hmirrors.entries, hmirrors.running, hmirrors.holder, hturn⟩

def sampleScript : List Step :=
  [.call (.clientCmdline ⟨"ls", ["-l"]⟩), .call (.initMemLayout 0x10000 0x7fff),
    .call (.initClientStack 0x7fff { initialSp := 0x7ffc, auxv := 5 } ⟨0x7ffc, [1, 2, 3]⟩),
    .acquire .main .normal fun _ _ => true, .call (.threadCreate .main ⟨2⟩ ⟨77⟩),
    .call (.syscallArgs .main 4 (Bytes.zeros 48)), .call (.timestamp 9), .release (.ofBytes [1]),
    .acquire ⟨2⟩ .preempt fun _ _ => true, .call (.syscallMem [⟨0x2000, [8, 9]⟩]), .exitThread]

def sampleReplay : List Step :=
  [.call (.clientCmdline ⟨"cat", []⟩), .call (.initMemLayout 1 2),
    .call (.initClientStack 0x7fff { initialSp := 0, auxv := 0 } ⟨0x7ff0, Bytes.zeros 16⟩),
    .acquire .main .normal fun _ _ => false, .call (.threadCreate .main ⟨2⟩ ⟨5⟩),
    .call (.syscallArgs .main 4 (List.replicate 48 1)), .call (.timestamp 1),
    .release (.ofBytes [1]), .acquire ⟨2⟩ .preempt fun _ _ => false,
    .call (.syscallMem [⟨0x9000, [0, 0]⟩]), .exitThread]

theorem sampleReplay_alike : List.Forall₂ Step.Alike sampleScript sampleReplay := by
  have hregion : List.Forall₂ (fun region region' : Guest.Memory =>
      region'.bytes.length = region.bytes.length) [⟨0x2000, [8, 9]⟩] [⟨0x9000, [0, 0]⟩] :=
    .cons rfl .nil
  exact .cons (.call (.clientCmdline _ _)) <| .cons (.call (.initMemLayout _ _ _ _)) <|
    .cons (.call (.initClientStack _ (by decide +kernel))) <| .cons (.acquire _ _ _ _) <|
    .cons (.call (.threadCreate _ _ _ _)) <| .cons (.call (.syscallArgs _ _ (by decide +kernel))) <|
    .cons (.call (.timestamp _ _)) <| .cons (.release _) <| .cons (.acquire _ _ _ _) <|
    .cons (.call (.syscallMem hregion)) <| .cons .exitThread .nil

theorem replay_of_recorded_sample :
    ((recording {} {} .x86).run sampleScript).1.all (·.succeeds) ∧
      ∃ outcomes t',
        (replaying ((recording {} {} .x86).run sampleScript).2.session.held {} .x86).run
            sampleReplay = (outcomes, t') ∧
          outcomes.all (·.succeeds) ∧
          List.Forall₂ (fun steps outcome => Step.Replayed steps.1 steps.2 outcome)
            (sampleScript.zip sampleReplay) outcomes ∧
          t'.session.unread = [] ∧ t'.session.schedule.turn = .exhausted := by
  have hok : ((recording {} {} .x86).run sampleScript).1.all (·.succeeds) := by decide +kernel
  have hscript : ({} : Progress).reach? sampleScript =
      some { phase := .between, runner := ⟨2⟩, filled := [] } := by decide +kernel
  obtain ⟨outcomes, t', hrun, hsucceeds, hreplayed, hunread, _, _, _, hturn⟩ :=
    replay_of_recorded rfl hscript rfl hok sampleReplay_alike
  exact ⟨hok, outcomes, t', hrun, hsucceeds, hreplayed, hunread, hturn rfl⟩

end Token

end Retrace
