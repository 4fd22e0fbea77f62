import Retrace.Proofs.Session.Chronicle
import Retrace.Proofs.Session.FaithfulReplay
import Retrace.Proofs.Session.Handout

namespace Retrace

open Log

theorem Call.Logs.stretch {running : ThreadId} {layout : Guest.RegisterLayout} {call : Call}
    {passages : List Passage} (h : call.Logs running layout passages) :
    Stretch running (passages.map (·.entry)) := by
  have hentry {p : Passage} {entry : Entry} {payload : Bytes} (hp : p.logged = (entry, payload)) :
      p.entry = entry := congrArg Prod.fst hp
  have hsingle {p : Passage} {body : Body} {payload : Bytes}
      (hp : p.logged = (⟨running, body⟩, payload)) (halone : body.kind.standsAlone = true) :
      Stretch running ([p].map (·.entry)) := by
    rw [List.map_singleton, hentry hp]
    exact .single halone .nil
  cases h with
  | clientCmdline _ hp => exact hsingle hp rfl
  | threadCreate hp => exact hsingle hp rfl
  | syscallRet hp => exact hsingle hp rfl
  | dispatchCounter hp => exact hsingle hp rfl
  | initMemLayout _ hp => exact hsingle hp rfl
  | initGuestState _ hp => exact hsingle hp rfl
  | snapshot _ hp => exact hsingle hp rfl
  | timestamp hp => exact hsingle hp rfl
  | registerProbe => exact .nil
  | syscallArgs _ hp hq =>
    rw [List.map_cons, List.map_singleton, hentry hp, hentry hq]
    exact .syscallArgs .nil
  | initClientStack _ _ _ hp hq =>
    rw [List.map_cons, List.map_singleton, hentry hp, hentry hq]
    exact .initClientStack .nil
  | syscallMem hlogged =>
    induction hlogged with
    | nil => exact .nil
    | cons hp _ ih =>
      rw [List.map_cons, hentry hp]
      exact .single rfl ih

theorem Session.close_writes {s : Session} (h : s.Records) : s.Writes [] s.close.2 := by
  obtain ⟨w, hs⟩ := h
  rw [close]
  split
  · exact Records.writes_nil ⟨w, hs⟩
  · have hsame := w.barrier_same
    rw [finish, hs]
    dsimp only
    split <;> rename_i w' hbarrier <;> rw [hbarrier] at hsame
    all_goals
      refine ⟨⟨w, w', hs, rfl, ?_, hsame.2.1⟩, rfl, rfl, rfl⟩
      rw [hsame.1, Passage.join_nil, List.append_nil]

theorem Session.perform_stretch {s : Session} (h : s.Records) {call : Call}
    (hok : (s.perform call).1.result.isOk) :
    ∃ passages, Stretch s.running (passages.map (·.entry)) ∧ (call = .close → passages = []) ∧
      s.Writes passages (s.perform call).2 := by
  by_cases hclose : call = .close
  · subst hclose
    exact ⟨[], .nil, fun _ => rfl, close_writes h⟩
  · obtain ⟨passages, hlogs, hwrites⟩ := perform_logs h hclose hok
    exact ⟨passages, hlogs.stretch, fun h => (hclose h).elim, hwrites⟩

/-- Where a program that records is: in front of its first turn, in a turn, between two turns, or behind
a turn that it left without a word. -/
inductive Stage
  | setup
  | turn
  | between
  | left
  deriving DecidableEq

namespace Stage

/-- The program makes its calls in front of its first turn and in its turns. Each turn ends with a word
in the log, if another one follows. The log may be closed at any time. -/
def next? (stage : Stage) (step : Step) : Option Stage :=
  match step, stage with
  | .acquire .., setup | .acquire .., between => some turn
  | .release _, turn | .exitThread, turn => some between
  | .drop, turn => some left
  | .call _, setup => some setup
  | .call _, turn => some turn
  | .call .close, stage => some stage
  | _, _ => none

def reach? (stage : Stage) : List Step → Option Stage
  | [] => some stage
  | step :: rest => (stage.next? step).bind (·.reach? rest)

end Stage

namespace Token

/-- A token of which a chronicle tells all that was logged. -/
inductive Told : Stage → Token → Chronicle → Prop
  | setup {t : Token} {c : Chronicle} (holder : t.holder = none)
      (running : t.session.running = .nobody) (turn : t.session.schedule.turn = .notStarted)
      (turns : c.turns = []) : Told .setup t c
  | turn {t : Token} {c : Chronicle} {earlier : List Turn.Logged} {current : Turn.Logged}
      (holder : t.holder = some current.runner) (running : t.session.running = current.runner)
      (turn : t.session.schedule.turn ≠ .notStarted) (turns : c.turns = earlier ++ [current])
      (goesOn : current.tag = none) : Told .turn t c
  | between {t : Token} {c : Chronicle} (holder : t.holder = none)
      (turn : t.session.schedule.turn ≠ .notStarted) (turns : c.turns ≠ [])
      (ended : ∀ turn ∈ c.turns, turn.tag.isSome) : Told .between t c
  | left {t : Token} {c : Chronicle} {earlier : List Turn.Logged} {current : Turn.Logged}
      (turns : c.turns = earlier ++ [current]) (goesOn : current.tag = none) : Told .left t c

/-- What a step logs: the chronicle goes on, by whoever was let run. -/
structure Tells (t : Token) (c : Chronicle) (stage : Stage)
    (admitted : List (ThreadId × CallerClass)) (t' : Token) (c' : Chronicle) : Prop where
  writes : ∃ passages, t.session.channel.Writes passages t'.session.channel ∧
    c'.entries = c.entries ++ passages.map (·.entry)
  told : Told stage t' c'
  admissions : c'.admissions = c.admissions ++ admitted

theorem Told.goOn {t : Token} {c : Chronicle} {earlier : List Turn.Logged}
    {current : Turn.Logged} (hturns : c.turns = earlier ++ [current]) (turn : Turn.Logged)
    (hrunner : turn.runner = current.runner) (holder : t.holder = some turn.runner)
    (running : t.session.running = turn.runner) (started : t.session.schedule.turn ≠ .notStarted)
    (goesOn : turn.tag = none) : Told .turn t (c.goOn hturns turn hrunner) := by
  have hlast : (c.goOn hturns turn hrunner).turns = earlier ++ [turn] := rfl
  exact .turn holder running started hlast goesOn

theorem call_tells {stage stage' : Stage} {t : Token} {c : Chronicle} {call : Call}
    (hrecords : t.session.Records) (htold : Told stage t c)
    (hnext : stage.next? (.call call) = some stage') (hok : (t.step (.call call)).1.succeeds) :
    ∃ c', t.Tells c stage' [] (t.step (.call call)).2 c' := by
  obtain ⟨passages, hstretch, hclose, hwrites⟩ := Session.perform_stretch hrecords hok
  have hrunning : (t.step (.call call)).2.session.running = t.session.running := hwrites.running
  have hturn : (t.step (.call call)).2.session.schedule.turn = t.session.schedule.turn :=
    congrArg Schedule.turn hwrites.schedule
  cases htold with
  | setup holder running turn turns =>
    cases hnext
    rw [running] at hstretch
    refine ⟨c.setUp _ hstretch, ⟨passages, hwrites.channel, c.entries_setUp hstretch turns⟩, ?_, ?_⟩
    · exact .setup holder (hrunning.trans running) (hturn.trans turn) turns
    · exact (List.append_nil _).symm
  | @turn _ _ earlier current holder running turn turns goesOn =>
    cases hnext
    rw [running] at hstretch
    let next := current.log _ hstretch
    have hnext : next.admission = current.admission := rfl
    have hentries := Turn.Logged.entries_log hstretch goesOn
    refine ⟨c.goOn turns next rfl, ⟨passages, hwrites.channel, ?_⟩, ?_, ?_⟩
    · exact Chronicle.entries_goOn turns hnext hentries
    · have hholder : (t.step (.call call)).2.holder = some next.runner := holder
      rw [← hturn] at turn
      exact .goOn turns next rfl hholder (hrunning.trans running) turn goesOn
    · rw [List.append_nil]
      exact Chronicle.admissions_goOn turns hnext
  | between holder turn turns ended =>
    cases call with
    | close =>
      cases hnext
      cases hclose rfl
      refine ⟨c, ⟨[], hwrites.channel, (List.append_nil _).symm⟩, ?_, (List.append_nil _).symm⟩
      rw [← hturn] at turn
      exact .between holder turn turns ended
    | _ => cases hnext
  | left turns goesOn =>
    cases call with
    | close =>
      cases hnext
      cases hclose rfl
      exact ⟨c, ⟨[], hwrites.channel, (List.append_nil _).symm⟩, .left turns goesOn,
        (List.append_nil _).symm⟩
    | _ => cases hnext

theorem acquire_tells {stage stage' : Stage} {t : Token} {c : Chronicle} {thread : ThreadId}
    {callerClass : CallerClass} {answers : ExitProbe → Nat → Bool}
    (hrecords : t.session.Records) (htold : Told stage t c)
    (hnext : stage.next? (.acquire thread callerClass answers) = some stage')
    (hok : (t.acquire thread callerClass answers).1.isOk) :
    (t.acquire thread callerClass answers).2.holder = some thread ∧
      ∃ c', t.Tells c stage' [(thread, callerClass)]
        (t.acquire thread callerClass answers).2 c' := by
  have hbegins (hfree : t.holder = none) (hended : ∀ turn ∈ c.turns, turn.tag.isSome)
      (hfresh : c.turns = [] ↔ t.session.schedule.turn = .notStarted) :
      (t.acquire thread callerClass answers).2.holder = some thread ∧
        ∃ c', t.Tells c .turn [(thread, callerClass)]
          (t.acquire thread callerClass answers).2 c' := by
    obtain ⟨passages, hadmits, hlogged⟩ := acquire_admits hrecords hfree hok
    let turn := Turn.Logged.begin thread callerClass
    have hmain : c.turns = [] → thread = .main := by
      intro hnone
      rcases hlogged with ⟨_, hmain, _⟩ | ⟨hstarted, _⟩
      · exact hmain
      · exact (hstarted (hfresh.mp hnone)).elim
    refine ⟨hadmits.holder, c.begin turn hmain hended, ⟨passages, hadmits.channel, ?_⟩, ?_, ?_⟩
    · change byTurns c.setup (c.turns ++ [turn]) = byTurns c.setup c.turns ++ passages.map (·.entry)
      rcases hlogged with ⟨hnotStarted, _, rfl⟩ | ⟨hstarted, p, rfl, hp⟩
      · rw [hfresh.mpr hnotStarted, List.nil_append, List.map_nil, List.append_nil]
        exact (List.append_nil _).trans (List.append_nil _)
      · have hentry : p.entry = .acquire thread callerClass := congrArg Prod.fst hp
        have hsome : c.turns ≠ [] := fun hnone => hstarted (hfresh.mp hnone)
        rw [Chronicle.byTurns_concat _ hsome, List.map_singleton, hentry]
        rfl
    · have hturns : (c.begin turn hmain hended).turns = c.turns ++ [turn] := rfl
      exact .turn hadmits.holder hadmits.running hadmits.started hturns rfl
    · exact List.map_append
  cases htold with
  | setup holder running turn turns =>
    cases hnext
    apply hbegins holder
    · rw [turns]
      exact nofun
    · exact iff_of_true turns turn
  | between holder turn turns ended =>
    cases hnext
    exact hbegins holder ended (iff_of_false turns turn)
  | turn => cases hnext
  | left => cases hnext

theorem turnEnd_tells {t t' : Token} {c : Chronicle} {thread : ThreadId} {tag : ReleaseTag}
    (htold : Told .turn t c) (hholder : t.holder = some thread)
    (hends : t.session.LogsEnd thread tag t'.session) (hfree : t'.holder = none) :
    ∃ c', t.Tells c .between [] t' c' := by
  cases htold with
  | @turn _ _ earlier current holder running turn turns goesOn =>
    cases holder.symm.trans hholder
    obtain ⟨p, hp, hwrites⟩ := hends.channel
    let last := current.finish tag
    have hlast : last.admission = current.admission := rfl
    have hentries : last.entries = current.entries ++ [p].map (·.entry) := by
      rw [Turn.Logged.entries_finish goesOn]
      exact congrArg (current.entries ++ [·]) (congrArg Prod.fst hp).symm
    refine ⟨c.goOn turns last rfl, ⟨[p], hwrites, ?_⟩, ?_, ?_⟩
    · exact Chronicle.entries_goOn turns hlast hentries
    · have hstarted := turn
      rw [← hends.turn] at hstarted
      have hturns : (c.goOn turns last rfl).turns = earlier ++ [last] := rfl
      have hended := c.ended
      rw [turns, List.dropLast_concat] at hended
      apply Told.between hfree hstarted
      · rw [hturns]
        exact List.append_ne_nil_of_right_ne_nil _ (List.cons_ne_nil _ _)
      · rw [hturns]
        intro turn hmem
        rcases List.mem_append.mp hmem with hmem | hmem
        · exact hended turn hmem
        · cases List.mem_singleton.mp hmem
          rfl
    · rw [List.append_nil]
      exact Chronicle.admissions_goOn turns hlast

theorem admitted?_of_holder {t : Token} {thread : ThreadId} {callerClass : CallerClass}
    {answers : ExitProbe → Nat → Bool} (hok : (t.acquire thread callerClass answers).1.isOk)
    (hholder : (t.acquire thread callerClass answers).2.holder = some thread) :
    (Step.acquire thread callerClass answers).admitted?
      (.asked (t.acquire thread callerClass answers).1) = some (thread, callerClass) := by
  rw [acquire] at hok hholder ⊢
  split at hok
  · cases hok
  · rename_i hfree
    rw [if_neg hfree] at hholder ⊢
    rcases hentered : t.session.enter thread callerClass with ⟨e | answer, session⟩
    · rw [hentered] at hok
      cases hok
    · rw [hentered] at hholder
      cases answer with
      | first => rfl
      | admitted => rfl
      | notYet =>
        have hsome : t.holder.isSome := Option.isSome_of_eq_some hholder
        exact (hfree hsome).elim

theorem Told.holder_isSome {t : Token} {c : Chronicle} (h : Told .turn t c) :
    ∃ thread, t.holder = some thread := by
  cases h with
  | turn holder => exact ⟨_, holder⟩

theorem step_tells {stage stage' : Stage} {t : Token} {c : Chronicle} {step : Step}
    (hrecords : t.session.Records) (htold : Told stage t c)
    (hnext : stage.next? step = some stage') (hok : (t.step step).1.succeeds) :
    ∃ c', t.Tells c stage' (step.admitted? (t.step step).1).toList (t.step step).2 c' := by
  cases step with
  | call call => exact call_tells hrecords htold hnext hok
  | acquire thread callerClass answers =>
    obtain ⟨hholder, htells⟩ := acquire_tells hrecords htold hnext hok
    rw [step, admitted?_of_holder hok hholder]
    exact htells
  | release tag =>
    cases stage with
    | turn =>
      cases hnext
      obtain ⟨thread, hholder⟩ := htold.holder_isSome
      have hstep := giveUp_of_held hholder fun session thread => session.release thread tag
      rw [step, release, hstep] at hok ⊢
      exact turnEnd_tells htold hholder
        (Session.release_logsEnd hrecords (eq_ok_of_isOk hok)) rfl
    | _ => cases hnext
  | exitThread =>
    cases stage with
    | turn =>
      cases hnext
      obtain ⟨thread, hholder⟩ := htold.holder_isSome
      have hstep := giveUp_of_held hholder Session.exitThread
      rw [step, exitThread, hstep] at hok ⊢
      exact turnEnd_tells htold hholder
        (Session.exitThread_logsEnd hrecords (eq_ok_of_isOk hok)).2 rfl
    | _ => cases hnext
  | drop =>
    cases stage with
    | turn =>
      cases hnext
      obtain ⟨thread, hholder⟩ := htold.holder_isSome
      have hstep := giveUp_of_held hholder fun session _ => (.ok (), session)
      rw [step, drop, hstep]
      cases htold with
      | turn _ _ _ turns goesOn =>
        exact ⟨c, ⟨[], hrecords.writes_nil.channel, (List.append_nil _).symm⟩, .left turns goesOn,
          (List.append_nil _).symm⟩
    | _ => cases hnext

theorem records_of_writes {s s' : Session} {passages : List Passage}
    (h : s.channel.Writes passages s'.channel) : s'.Records := by
  obtain ⟨_, w', _, hs', _⟩ := h
  exact ⟨w', hs'⟩

theorem run_tells {stage stage' : Stage} {t : Token} {c : Chronicle} {steps : List Step}
    (hrecords : t.session.Records) (htold : Told stage t c)
    (hreach : stage.reach? steps = some stage') (hok : (t.run steps).1.all (·.succeeds)) :
    ∃ c', t.Tells c stage' (admissions steps (t.run steps).1) (t.run steps).2 c' := by
  induction steps generalizing stage t c with
  | nil =>
    cases hreach
    exact ⟨c, ⟨[], hrecords.writes_nil.channel, (List.append_nil _).symm⟩, htold,
      (List.append_nil _).symm⟩
  | cons step steps ih =>
    obtain ⟨next, hnext, hreach⟩ := Option.bind_eq_some_iff.mp hreach
    obtain ⟨hstep, hsteps⟩ := Bool.and_eq_true_iff.mp hok
    obtain ⟨c', htells⟩ := step_tells hrecords htold hnext hstep
    obtain ⟨passages, hwrites, hentries⟩ := htells.writes
    obtain ⟨c'', htells'⟩ := ih (records_of_writes hwrites) htells.told hreach hsteps
    obtain ⟨passages', hwrites', hentries'⟩ := htells'.writes
    refine ⟨c'', ⟨passages ++ passages', hwrites.trans hwrites', ?_⟩, htells'.told, ?_⟩
    · rw [hentries', hentries, List.map_append, List.append_assoc]
    · rw [htells'.admissions, htells.admissions, List.append_assoc]
      exact congrArg (c.admissions ++ ·) (admissions_cons _ _ _ _).symm

theorem Told.turn_open_iff {stage : Stage} {t : Token} {c : Chronicle} (h : Told stage t c) :
    (∃ turn ∈ c.turns, turn.tag = none) ↔ stage = .turn ∨ stage = .left := by
  cases h with
  | setup _ _ _ turns =>
    rw [turns]
    exact iff_of_false nofun nofun
  | turn _ _ _ turns goesOn =>
    rw [turns]
    exact iff_of_true ⟨_, List.mem_append_right _ List.mem_cons_self, goesOn⟩ (.inl rfl)
  | left turns goesOn =>
    rw [turns]
    exact iff_of_true ⟨_, List.mem_append_right _ List.mem_cons_self, goesOn⟩ (.inr rfl)
  | between _ _ _ ended =>
    apply iff_of_false _ nofun
    rintro ⟨turn, hmem, hnone⟩
    have hsome := ended turn hmem
    rw [hnone] at hsome
    cases hsome

/-- What a program recorded in turns, if all its calls succeed: what was set up, and the turns of the
threads in the order in which they were let run, each ended by a release unless it goes on. -/
theorem chronicle_of_recorded {sink : Sink} {config : Config} {layout : Guest.RegisterLayout}
    {steps : List Step} {stage : Stage} {outcomes : List Outcome} {t : Token}
    (hfresh : sink.held = []) (hscript : Stage.setup.reach? steps = some stage)
    (hrun : (recording sink config layout).run steps = (outcomes, t))
    (hok : outcomes.all (·.succeeds)) :
    ∃ (c : Chronicle) (logged : List (Entry × Bytes)),
      Cursor.items (.ofBytes t.session.held) = (layOut 0 0 logged).map .ok ∧
      logged.map Prod.fst = c.entries ∧ c.admissions = admissions steps outcomes ∧
      ((∃ turn ∈ c.turns, turn.tag = none) ↔ stage = .turn ∨ stage = .left) ∧
      InRow none c.entries := by
  have hrecords : (recording sink config layout).session.Records := ⟨_, rfl⟩
  have htold : Told .setup (recording sink config layout) .blank := .setup rfl rfl rfl rfl
  have houtcomes : ((recording sink config layout).run steps).1 = outcomes := congrArg Prod.fst hrun
  have hlast : ((recording sink config layout).run steps).2 = t := congrArg Prod.snd hrun
  rw [← houtcomes] at hok
  obtain ⟨c, htells⟩ := run_tells hrecords htold hscript hok
  rw [houtcomes, hlast] at htells
  obtain ⟨passages, hwrites, hentries⟩ := htells.writes
  have hheld : t.session.held = Passage.join passages := by
    rw [held_of_writes hwrites]
    change sink.held ++ Passage.join passages = Passage.join passages
    rw [hfresh, List.nil_append]
  refine ⟨c, passages.map Passage.logged, ?_, ?_, htells.admissions, htells.told.turn_open_iff,
    c.inRow⟩
  · rw [hheld, Cursor.items_join]
  · rw [hentries, List.map_map]
    rfl

theorem chronicle_of_recorded_sample :
    ((recording {} {} .x86).run sampleScript).1.all (·.succeeds) ∧
      ∃ (c : Chronicle) (logged : List (Entry × Bytes)),
        Cursor.items (.ofBytes ((recording {} {} .x86).run sampleScript).2.session.held) =
            (layOut 0 0 logged).map .ok ∧
          logged.map Prod.fst = c.entries ∧
          c.admissions = [(.main, .normal), (⟨2⟩, .preempt)] ∧
          ¬(∃ turn ∈ c.turns, turn.tag = none) ∧ InRow none c.entries := by
  have hok : ((recording {} {} .x86).run sampleScript).1.all (·.succeeds) := by decide +kernel
  have hscript : Stage.setup.reach? sampleScript = some .between := by decide +kernel
  have hadmitted : admissions sampleScript ((recording {} {} .x86).run sampleScript).1 =
      [(.main, .normal), (⟨2⟩, .preempt)] := by decide +kernel
  obtain ⟨c, logged, hitems, hentries, hadmissions, hopen, hrow⟩ :=
    chronicle_of_recorded rfl hscript rfl hok
  have hended : ¬∃ turn ∈ c.turns, turn.tag = none := by
    intro hturn
    rcases hopen.mp hturn with h | h
    · cases h
    · cases h
  exact ⟨hok, c, logged, hitems, hentries, hadmissions.trans hadmitted, hended, hrow⟩

end Token

end Retrace
