import Retrace.Proofs.Session.Consumption

namespace Retrace

open Log

def Log.entriesIn (bytes : Bytes) : List Entry :=
  (Cursor.items (.ofBytes bytes)).filterMap fun item =>
    match item with
    | .ok recorded => some recorded.entry
    | .error _ => none

/-- Who runs next, and for which reason, in an entry that tells it. -/
def Log.Entry.acquisition? (entry : Entry) : Option (ThreadId × CallerClass) :=
  match entry.body with
  | .acquire holder callerClass => some (holder, callerClass)
  | _ => none

theorem Log.Spells.entriesIn {read : Bytes} {entries : List Entry} (h : Spells read entries) :
    entriesIn read = entries := by
  obtain ⟨passages, rfl, rfl⟩ := h
  rw [Log.entriesIn, Cursor.items_join, List.filterMap_map]
  exact (congrFun List.filterMap_eq_map _).trans (Passage.map_entry_layOut 0 0 passages)

namespace Step

def endsTurn : Step → Bool
  | .release _ | .exitThread => true
  | .acquire .. | .drop | .call _ => false

def inOrder : Step → Outcome → Bool
  | .release _, outcome | .exitThread, outcome => outcome.succeeds
  | .drop, _ => false
  | .acquire .., _ | .call _, _ => true

/-- The thread that a step let run, and the reason it asked for. -/
def admitted? : Step → Outcome → Option (ThreadId × CallerClass)
  | .acquire thread callerClass _, .asked (.ok (.granted _)) => some (thread, callerClass)
  | _, _ => none

end Step

/-- All turns of a run were ended in order. Every other step may fail. -/
def Orderly (steps : List Step) (outcomes : List Outcome) : Prop :=
  (steps.zip outcomes).all fun (step, outcome) => step.inOrder outcome

def admissions (steps : List Step) (outcomes : List Outcome) : List (ThreadId × CallerClass) :=
  (steps.zip outcomes).filterMap fun (step, outcome) => step.admitted? outcome

namespace Token

def readBy (t : Token) (step : Step) : Bytes :=
  t.session.unread.take (t.session.unread.length - (t.step step).2.session.unread.length)

def readings (t : Token) : List Step → List Bytes
  | [] => []
  | step :: rest => t.readBy step :: (t.step step).2.readings rest

/-- The acquisitions that a step finds in the log if it ends a turn. -/
def handedOn (t : Token) (step : Step) : List (ThreadId × CallerClass) :=
  if step.endsTurn then (entriesIn (t.readBy step)).filterMap Entry.acquisition? else []

/-- The acquisitions that the ends of the turns of a run find in the log. -/
def handovers (t : Token) : List Step → List (ThreadId × CallerClass)
  | [] => []
  | step :: rest => t.handedOn step ++ (t.step step).2.handovers rest

/-- The thread that the log names next, while nobody runs. -/
def awaited (t : Token) : List (ThreadId × CallerClass) :=
  match t.holder, t.session.schedule.turn with
  | none, .scheduled next callerClass => [(next, callerClass)]
  | _, _ => []

theorem readBy_of_reads {t : Token} {step : Step} {read : Bytes} {count : Nat}
    (h : t.session.channel.Reads read count (t.step step).2.session.channel) :
    t.readBy step = read := by
  rw [readBy, Session.unread_of_reads h, List.length_append, Nat.add_sub_cancel,
    List.take_left' rfl]

theorem unread_eq_readBy {t : Token} (h : t.session.Replays) (step : Step) :
    t.session.unread = t.readBy step ++ (t.step step).2.session.unread := by
  obtain ⟨read, count, hreads, _⟩ := step_reads h step
  rw [readBy_of_reads hreads]
  exact Session.unread_of_reads hreads

theorem step_replays {t : Token} (h : t.session.Replays) (step : Step) :
    (t.step step).2.session.Replays := by
  obtain ⟨read, count, hreads, _⟩ := step_reads h step
  exact Session.replays_of_reads hreads

/-- A replay in which whoever runs, runs in turn. -/
structure InTurn (t : Token) : Prop where
  replays : t.session.Replays
  holder : ∀ thread, t.holder = some thread →
    ∃ callerClass, t.session.schedule.turn = .scheduled thread callerClass

/-- All that a step can do about who runs: nothing, or let run the thread whose turn it is, or end the
turn and name the next. -/
inductive Moves (t : Token) (step : Step) : Prop
  | stays (admitted : step.admitted? (t.step step).1 = none) (handed : t.handedOn step = [])
      (holder : (t.step step).2.holder = t.holder)
      (turn : (t.step step).2.session.schedule.turn = t.session.schedule.turn)
  | starts {callerClass : CallerClass} (free : t.holder = none)
      (notStarted : t.session.schedule.turn = .notStarted)
      (admitted : step.admitted? (t.step step).1 = some (.main, callerClass))
      (handed : t.handedOn step = []) (holder : (t.step step).2.holder = some .main)
      (turn : (t.step step).2.session.schedule.turn = .scheduled .main .normal)
  | letsRun {next : ThreadId} {callerClass : CallerClass} (free : t.holder = none)
      (scheduled : t.session.schedule.turn = .scheduled next callerClass)
      (admitted : step.admitted? (t.step step).1 = some (next, callerClass))
      (handed : t.handedOn step = []) (holder : (t.step step).2.holder = some next)
      (turn : (t.step step).2.session.schedule.turn = .scheduled next callerClass)
  | handsOn {next : ThreadId} {callerClass : CallerClass} (held : t.holder.isSome)
      (admitted : step.admitted? (t.step step).1 = none)
      (handed : t.handedOn step = [(next, callerClass)]) (holder : (t.step step).2.holder = none)
      (turn : (t.step step).2.session.schedule.turn = .scheduled next callerClass)
  | ends (held : t.holder.isSome) (admitted : step.admitted? (t.step step).1 = none)
      (handed : t.handedOn step = [])
      (holder : (t.step step).2.holder = none)
      (turn : (t.step step).2.session.schedule.turn = .exhausted)

theorem Moves.refused {t : Token} {step : Step} {outcome : Outcome}
    (h : t.step step = (outcome, t)) (hadmitted : step.admitted? outcome = none)
    (hhanded : t.handedOn step = []) : t.Moves step := by
  apply Moves.stays
  · rw [h]
    exact hadmitted
  · exact hhanded
  · rw [h]
  · rw [h]

theorem acquire_moves {t : Token} (h : t.session.Replays) (thread : ThreadId)
    (callerClass : CallerClass) (answers : ExitProbe → Nat → Bool) :
    t.Moves (.acquire thread callerClass answers) := by
  cases hfree : t.holder with
  | some holder =>
    have hrefused : t.step (.acquire thread callerClass answers) =
        (.asked (.error .alreadyHeld), t) := by
      rw [step, acquire_of_held (by rw [hfree]; rfl)]
    exact .refused hrefused rfl rfl
  | none =>
    have hanswers := acquire_answers h hfree thread callerClass answers
    have hstep : t.step (.acquire thread callerClass answers) =
        (.asked (t.acquire thread callerClass answers).1,
          (t.acquire thread callerClass answers).2) := rfl
    generalize t.acquire thread callerClass answers = result at hanswers hstep
    obtain ⟨answer, t'⟩ := result
    rw [Answers] at hanswers
    split at hanswers <;> rename_i hturn
    · split at hanswers
      · rename_i hmain
        obtain ⟨rfl, hruns⟩ := hanswers
        subst hmain
        apply Moves.starts hfree hturn
        · rw [hstep]
          rfl
        · rfl
        · rw [hstep]
          exact hruns.holder
        · rw [hstep]
          exact hruns.turn
      · obtain ⟨rfl, rfl⟩ := hanswers
        exact .refused hstep rfl rfl
    · rename_i next recorded
      split at hanswers
      · obtain ⟨rfl, rfl⟩ := hanswers
        exact .refused hstep rfl rfl
      · rename_i hnext
        split at hanswers
        · obtain ⟨rfl, rfl⟩ := hanswers
          exact .refused hstep rfl rfl
        · rename_i hclass
          obtain ⟨⟨wait, rfl⟩, hruns⟩ := hanswers
          cases Decidable.not_not.mp hnext
          cases Decidable.not_not.mp hclass
          apply Moves.letsRun hfree hturn
          · rw [hstep]
            rfl
          · rfl
          · rw [hstep]
            exact hruns.holder
          · rw [hstep]
            exact hruns.turn
    · obtain ⟨rfl, rfl⟩ := hanswers
      exact .refused hstep rfl rfl

theorem handedOn_of_spells {t : Token} {step : Step} {read : Bytes} {count : Nat}
    {entries : List Entry} (hends : step.endsTurn)
    (h : t.session.channel.Reads read count (t.step step).2.session.channel)
    (hspells : Spells read entries) : t.handedOn step = entries.filterMap Entry.acquisition? := by
  rw [handedOn, if_pos hends, readBy_of_reads h, hspells.entriesIn]

theorem giveUp_holder (t : Token)
    (finish : Session → ThreadId → Except SessionError Unit × Session) :
    (t.giveUp finish).2.holder = none := by
  rw [giveUp]
  split <;> rename_i hholder
  · exact hholder
  · rfl

theorem endsTurn_handedOn {t : Token} (h : t.session.Replays) {step : Step} (hends : step.endsTurn)
    (hok : (t.step step).1.succeeds) :
    t.holder.isSome ∧
      ((∃ next callerClass, t.handedOn step = [(next, callerClass)] ∧
          (t.step step).2.session.schedule.turn = .scheduled next callerClass) ∨
        (t.handedOn step = [] ∧ (t.step step).2.session.unread = [] ∧
          (t.step step).2.session.schedule.turn = .exhausted)) := by
  obtain ⟨read, count, hreads, hentries⟩ := step_reads h step
  obtain ⟨entries, hspells, _, hstands⟩ := hentries hok
  have hhanded := handedOn_of_spells hends hreads hspells
  have hturn : ∃ holder tag, t.holder = some holder ∧
      Session.EndsTurn holder tag entries (t.step step).2.session := by
    cases step with
    | release tag =>
      obtain ⟨holder, hholder, hturn⟩ := hstands
      exact ⟨holder, tag, hholder, hturn⟩
    | exitThread =>
      obtain ⟨holder, hholder, hturn⟩ := hstands
      exact ⟨holder, .exitThread, hholder, hturn⟩
    | _ => cases hends
  obtain ⟨holder, tag, hholder, hturn⟩ := hturn
  refine ⟨by rw [hholder]; rfl, ?_⟩
  rcases hturn with ⟨next, callerClass, rfl, _, hturn⟩ | ⟨rfl, hunread, hturn⟩
  · exact .inl ⟨next, callerClass, hhanded, hturn⟩
  · exact .inr ⟨hhanded, hunread, hturn⟩

theorem endsTurn_moves {t : Token} (h : t.session.Replays) {step : Step} (hends : step.endsTurn)
    (hok : (t.step step).1.succeeds) : t.Moves step := by
  have hfree : (t.step step).2.holder = none := by
    cases step with
    | release tag => exact giveUp_holder t fun session holder => session.release holder tag
    | exitThread => exact giveUp_holder t Session.exitThread
    | _ => cases hends
  have hadmitted : step.admitted? (t.step step).1 = none := by
    cases step with
    | acquire => cases hends
    | _ => rfl
  obtain ⟨hheld, ⟨next, callerClass, hhanded, hturn⟩ | ⟨hhanded, _, hturn⟩⟩ :=
    endsTurn_handedOn h hends hok
  · exact .handsOn hheld hadmitted hhanded hfree hturn
  · exact .ends hheld hadmitted hhanded hfree hturn

theorem giveUp_of_free {t : Token} (h : t.holder = none)
    (finish : Session → ThreadId → Except SessionError Unit × Session) :
    t.giveUp finish = (.error .notHeld, t) := by
  rw [giveUp, h]

theorem handedOn_of_unchanged {t : Token} {step : Step} (h : (t.step step).2 = t) :
    t.handedOn step = [] := by
  rw [handedOn, readBy, h, Nat.sub_self, List.take_zero, spells_nil.entriesIn]
  split <;> rfl

/-- What a step does about who runs, unless it ends a turn out of order. Without a holder there is no
turn to end. -/
theorem step_moves {t : Token} (h : t.session.Replays) {step : Step}
    (hin : t.holder = none ∨ step.inOrder (t.step step).1) : t.Moves step := by
  have hrefused (hfree : t.holder = none)
      (finish : Session → ThreadId → Except SessionError Unit × Session)
      (hstep : t.step step = (.gaveUp (t.giveUp finish).1, (t.giveUp finish).2))
      (hadmitted : step.admitted? (.gaveUp (.error .notHeld)) = none) : t.Moves step := by
    rw [giveUp_of_free hfree] at hstep
    exact .refused hstep hadmitted (handedOn_of_unchanged (by rw [hstep]))
  cases step with
  | acquire thread callerClass answers => exact acquire_moves h thread callerClass answers
  | release tag =>
    rcases hin with hfree | hok
    · exact hrefused hfree (fun session holder => session.release holder tag) rfl rfl
    · exact endsTurn_moves h rfl hok
  | exitThread =>
    rcases hin with hfree | hok
    · exact hrefused hfree Session.exitThread rfl rfl
    · exact endsTurn_moves h rfl hok
  | drop =>
    rcases hin with hfree | hok
    · exact hrefused hfree (fun session _ => (.ok (), session)) rfl rfl
    · cases hok
  | call call =>
    obtain ⟨read, count, hreads, _⟩ := Session.perform_accounts h call
    exact .stays rfl rfl rfl (congrArg Schedule.turn hreads.schedule)

theorem InTurn.step {t : Token} (h : t.InTurn) {step : Step}
    (hin : step.inOrder (t.step step).1) : (t.step step).2.InTurn := by
  refine ⟨step_replays h.replays step, fun thread hthread => ?_⟩
  cases step_moves h.replays (.inr hin) with
  | stays _ _ holder turn =>
    obtain ⟨callerClass, hturn⟩ := h.holder thread (holder ▸ hthread)
    exact ⟨callerClass, turn.trans hturn⟩
  | starts _ _ _ _ holder turn =>
    cases Option.some.inj (hthread.symm.trans holder)
    exact ⟨_, turn⟩
  | letsRun _ _ _ _ holder turn =>
    cases Option.some.inj (hthread.symm.trans holder)
    exact ⟨_, turn⟩
  | handsOn _ _ _ holder _ => cases hthread.symm.trans holder
  | ends _ _ _ holder _ => cases hthread.symm.trans holder

theorem InTurn.step_notStarted {t : Token} (h : t.InTurn)
    (hturn : t.session.schedule.turn = .notStarted) {step : Step}
    (hin : step.inOrder (t.step step).1) :
    t.handedOn step = [] ∧
      ((step.admitted? (t.step step).1 = none ∧
          (t.step step).2.session.schedule.turn = .notStarted) ∨
        ∃ callerClass, step.admitted? (t.step step).1 = some (.main, callerClass) ∧
          (t.step step).2.awaited = [] ∧
          (t.step step).2.session.schedule.turn ≠ .notStarted) := by
  have hfree (hheld : t.holder.isSome) : False := by
    obtain ⟨holder, hholder⟩ := Option.isSome_iff_exists.mp hheld
    obtain ⟨callerClass, hscheduled⟩ := h.holder holder hholder
    cases hturn.symm.trans hscheduled
  cases step_moves h.replays (.inr hin) with
  | stays admitted handed _ turn => exact ⟨handed, .inl ⟨admitted, turn.trans hturn⟩⟩
  | starts _ _ admitted handed holder turn =>
    refine ⟨handed, .inr ⟨_, admitted, ?_, ?_⟩⟩
    · rw [awaited, holder]
    · rw [turn]
      exact nofun
  | letsRun _ scheduled => cases hturn.symm.trans scheduled
  | handsOn held => exact (hfree held).elim
  | ends held => exact (hfree held).elim

/-- Who is awaited, and who is handed the token on, are together who is let run and who is awaited
then. -/
theorem step_awaited {t : Token} (h : t.session.Replays)
    (hturn : t.session.schedule.turn ≠ .notStarted) {step : Step}
    (hin : step.inOrder (t.step step).1) :
    (t.step step).2.session.schedule.turn ≠ .notStarted ∧
      t.awaited ++ t.handedOn step =
        (step.admitted? (t.step step).1).toList ++ (t.step step).2.awaited := by
  cases step_moves h (.inr hin) with
  | stays admitted handed holder turn =>
    rw [admitted, handed, turn, awaited, awaited, holder, turn]
    exact ⟨hturn, List.append_nil _⟩
  | starts _ notStarted => exact (hturn notStarted).elim
  | letsRun free scheduled admitted handed holder turn =>
    rw [admitted, handed, turn, awaited, awaited, free, scheduled, holder]
    exact ⟨nofun, rfl⟩
  | handsOn held admitted handed holder turn =>
    obtain ⟨thread, hheld⟩ := Option.isSome_iff_exists.mp held
    rw [admitted, handed, turn, awaited, awaited, hheld, holder, turn]
    exact ⟨nofun, rfl⟩
  | ends held admitted handed holder turn =>
    obtain ⟨thread, hheld⟩ := Option.isSome_iff_exists.mp held
    rw [admitted, handed, turn, awaited, awaited, hheld, holder, turn]
    exact ⟨nofun, rfl⟩

theorem run_unread {t : Token} (h : t.session.Replays) (steps : List Step) :
    t.session.unread = (t.readings steps).flatten ++ (t.run steps).2.session.unread := by
  induction steps generalizing t with
  | nil => rfl
  | cons step rest ih =>
    rw [unread_eq_readBy h step, ih (step_replays h step), readings, List.flatten_cons,
      List.append_assoc]
    rfl

theorem admissions_cons (step : Step) (outcome : Outcome) (steps : List Step)
    (outcomes : List Outcome) :
    admissions (step :: steps) (outcome :: outcomes) =
      (step.admitted? outcome).toList ++ admissions steps outcomes := by
  rw [admissions, List.zip_cons_cons, List.filterMap_cons]
  dsimp only
  split <;> rename_i hadmitted
  · rw [hadmitted]
    rfl
  · rw [hadmitted]
    rfl

theorem orderly_cons {step : Step} {outcome : Outcome} {steps : List Step}
    {outcomes : List Outcome} (h : Orderly (step :: steps) (outcome :: outcomes)) :
    step.inOrder outcome ∧ Orderly steps outcomes :=
  Bool.and_eq_true_iff.mp h

theorem InTurn.run {t : Token} (h : t.InTurn) (steps : List Step)
    (horderly : Orderly steps (t.run steps).1) : (t.run steps).2.InTurn := by
  induction steps generalizing t with
  | nil => exact h
  | cons step rest ih =>
    obtain ⟨hstep, hrest⟩ := orderly_cons horderly
    exact ih (h.step hstep) hrest

theorem run_awaited {t : Token} (h : t.session.Replays)
    (hturn : t.session.schedule.turn ≠ .notStarted) (steps : List Step)
    (horderly : Orderly steps (t.run steps).1) :
    t.awaited ++ t.handovers steps =
      admissions steps (t.run steps).1 ++ (t.run steps).2.awaited := by
  induction steps generalizing t with
  | nil => exact List.append_nil _
  | cons step rest ih =>
    obtain ⟨hin, hrest⟩ := orderly_cons horderly
    obtain ⟨hturn', hstep⟩ := step_awaited h hturn hin
    have htail := ih (step_replays h step) hturn' hrest
    calc t.awaited ++ t.handovers (step :: rest)
        = (t.awaited ++ t.handedOn step) ++ (t.step step).2.handovers rest :=
          (List.append_assoc _ _ _).symm
      _ = (step.admitted? (t.step step).1).toList ++
            ((t.step step).2.awaited ++ (t.step step).2.handovers rest) := by
          rw [hstep, List.append_assoc]
      _ = (step.admitted? (t.step step).1).toList ++
            (admissions rest ((t.step step).2.run rest).1 ++
              ((t.step step).2.run rest).2.awaited) := by
          rw [htail]
      _ = admissions (step :: rest) (t.run (step :: rest)).1 ++
            (t.run (step :: rest)).2.awaited := by
          rw [← List.append_assoc, ← admissions_cons]
          rfl

theorem InTurn.run_notStarted {t : Token} (h : t.InTurn)
    (hturn : t.session.schedule.turn = .notStarted) (steps : List Step)
    (horderly : Orderly steps (t.run steps).1) :
    ((t.run steps).2.session.schedule.turn = .notStarted ∧
        admissions steps (t.run steps).1 = [] ∧ t.handovers steps = []) ∨
      ∃ callerClass, (.main, callerClass) :: t.handovers steps =
        admissions steps (t.run steps).1 ++ (t.run steps).2.awaited := by
  -- As long as nobody ran, `InTurn` rules out every step but the main thread's first acquisition;
  -- from there on `run_awaited` counts.
  induction steps generalizing t with
  | nil => exact .inl ⟨hturn, rfl, rfl⟩
  | cons step rest ih =>
    obtain ⟨hin, hrest⟩ := orderly_cons horderly
    obtain ⟨hhanded, ⟨hadmitted, hturn'⟩ | ⟨callerClass, hadmitted, hawaited, hturn'⟩⟩ :=
      h.step_notStarted hturn hin
    · have hadmissions : admissions (step :: rest) (t.run (step :: rest)).1 =
          admissions rest ((t.step step).2.run rest).1 := by
        rw [Token.run, admissions_cons, hadmitted]
        rfl
      rw [hadmissions, handovers, hhanded]
      exact ih (h.step hin) hturn' hrest
    · have htail := run_awaited (step_replays h.replays step) hturn' rest hrest
      rw [hawaited, List.nil_append] at htail
      refine .inr ⟨callerClass, ?_⟩
      rw [Token.run, admissions_cons, hadmitted, handovers, hhanded, List.nil_append, htail]
      rfl

theorem admissions_of_exhausted {t : Token} (h : t.session.Replays) (hfree : t.holder = none)
    (hturn : t.session.schedule.turn = .exhausted) (later : List Step) :
    admissions later (t.run later).1 = [] := by
  -- Without a holder no step can end a turn, so the turn stays as it is, in order or not.
  induction later generalizing t with
  | nil => rfl
  | cons step rest ih =>
    cases step_moves h (.inl hfree) with
    | stays admitted _ holder turn =>
      have htail := ih (step_replays h step) (holder.trans hfree) (turn.trans hturn)
      rw [Token.run, admissions_cons, admitted, htail]
      rfl
    | starts _ notStarted => cases hturn.symm.trans notStarted
    | letsRun _ scheduled => cases hturn.symm.trans scheduled
    | handsOn held =>
      rw [hfree] at held
      cases held
    | ends held =>
      rw [hfree] at held
      cases held

/-- A replay hands the token out in the recorded order, whoever asks when. First the main thread is let
run, and then the threads of the acquisitions that the ends of the turns find in the log. An attempt
out of turn is refused, and leaves everything as it was; behind the end of the log nobody is let
run. -/
theorem admissions_eq_handovers {log : Bytes} {config : Config} {layout : Guest.RegisterLayout}
    {steps : List Step} {outcomes : List Outcome} {t : Token}
    (hrun : (replaying log config layout).run steps = (outcomes, t))
    (horderly : Orderly steps outcomes) :
    ((t.session.schedule.turn = .notStarted ∧ admissions steps outcomes = [] ∧
        (replaying log config layout).handovers steps = []) ∨
      ∃ callerClass, (.main, callerClass) :: (replaying log config layout).handovers steps =
        admissions steps outcomes ++ t.awaited) ∧
    log = ((replaying log config layout).readings steps).flatten ++ t.session.unread ∧
    (∀ thread callerClass answers,
      (t.holder = none → t.Answers thread callerClass (t.acquire thread callerClass answers).1
        (t.acquire thread callerClass answers).2) ∧
      (t.holder ≠ none → t.acquire thread callerClass answers = (.error .alreadyHeld, t))) ∧
    (∀ step, step.endsTurn → (t.step step).1.succeeds →
      (∃ next callerClass, t.handedOn step = [(next, callerClass)] ∧
        (t.step step).2.session.schedule.turn = .scheduled next callerClass) ∨
      (t.handedOn step = [] ∧ (t.step step).2.session.unread = [] ∧
        (t.step step).2.session.schedule.turn = .exhausted)) ∧
    (t.session.schedule.turn = .exhausted → ∀ later, admissions later (t.run later).1 = []) := by
  have hreplays := replaying_replays log config layout
  have hstart : (replaying log config layout).InTurn := ⟨hreplays, nofun⟩
  have houtcomes : ((replaying log config layout).run steps).1 = outcomes := congrArg Prod.fst hrun
  have hlast : ((replaying log config layout).run steps).2 = t := congrArg Prod.snd hrun
  rw [← houtcomes] at horderly
  have horder := hstart.run_notStarted rfl steps horderly
  have hinTurn := hstart.run steps horderly
  have hunread := run_unread hreplays steps
  rw [houtcomes, hlast] at horder
  rw [hlast] at hinTurn hunread
  refine ⟨horder, hunread, ?_, ?_, ?_⟩
  · intro thread callerClass answers
    constructor
    · intro hfree
      exact acquire_answers hinTurn.replays hfree thread callerClass answers
    · intro hheld
      exact acquire_of_held (Option.isSome_iff_ne_none.mpr hheld) thread callerClass answers
  · intro step hends hok
    exact (endsTurn_handedOn hinTurn.replays hends hok).2
  · intro hexhausted later
    have hfree : t.holder = none := by
      cases hholder : t.holder with
      | none => rfl
      | some holder =>
        obtain ⟨callerClass, hscheduled⟩ := hinTurn.holder holder hholder
        cases hexhausted.symm.trans hscheduled
    exact admissions_of_exhausted hinTurn.replays hfree hexhausted later

/-- The log of a turn of the main thread, and one of another thread that interrupted it. -/
def twoTurns : Bytes :=
  (Entry.release .main (.ofBytes [1])).encode ++ (Entry.acquire ⟨2⟩ .preempt).encode ++
    (Entry.release ⟨2⟩ (.ofBytes [2])).encode

/-- Threads that ask too early, for another reason, in turn, while the token is held, and too late. -/
def contested : List Step :=
  let ask (slot : UInt32) (callerClass : CallerClass) : Step :=
    .acquire ⟨slot⟩ callerClass fun _ _ => true
  [ask 2 .preempt, ask 1 .unknown, ask 2 .preempt, .release (.ofBytes [1]), ask 1 .normal,
    ask 2 .normal, ask 2 .preempt, .release (.ofBytes [2]), ask 1 .normal]

theorem admissions_eq_handovers_contested :
    Orderly contested ((replaying twoTurns {} .x86).run contested).1 ∧
      (∃ callerClass, (.main, callerClass) :: (replaying twoTurns {} .x86).handovers contested =
        admissions contested ((replaying twoTurns {} .x86).run contested).1 ++
          ((replaying twoTurns {} .x86).run contested).2.awaited) ∧
      ∀ later,
        admissions later (((replaying twoTurns {} .x86).run contested).2.run later).1 = [] := by
  have horderly : Orderly contested ((replaying twoTurns {} .x86).run contested).1 := by
    rw [Orderly]
    decide +kernel
  have hexhausted : ((replaying twoTurns {} .x86).run contested).2.session.schedule.turn =
      .exhausted := by decide +kernel
  obtain ⟨horder, _, _, _, hlater⟩ := admissions_eq_handovers rfl horderly
  refine ⟨horderly, ?_, hlater hexhausted⟩
  rcases horder with ⟨hturn, _⟩ | horder
  · cases hexhausted.symm.trans hturn
  · exact horder

end Token

end Retrace
