import Retrace.Proofs.Session.Watching

namespace Retrace

open Log

/-- Two steps that say the same of threads and probes, whatever else they bring. -/
inductive Step.SameProbes : Step → Step → Prop
  | acquire (thread : ThreadId) (callerClass : CallerClass) (answers : ExitProbe → Nat → Bool) :
    SameProbes (.acquire thread callerClass answers) (.acquire thread callerClass answers)
  | release (tag tag' : ReleaseTag) : SameProbes (.release tag) (.release tag')
  | exitThread : SameProbes .exitThread .exitThread
  | drop : SameProbes .drop .drop
  | registerProbe (slot : ThreadId) (probe : ExitProbe) :
    SameProbes (.call (.registerProbe slot probe)) (.call (.registerProbe slot probe))
  | threadCreate (parent parent' child : ThreadId) (kernel kernel' : KernelTid) :
    SameProbes (.call (.threadCreate parent child kernel))
      (.call (.threadCreate parent' child kernel'))
  | call {call call' : Call} (fills : call.fills = []) (probe : call.probe? = none)
      (fills' : call'.fills = []) (probe' : call'.probe? = none) :
      SameProbes (.call call) (.call call')

theorem Step.SameProbes.refl (step : Step) : step.SameProbes step := by
  cases step with
  | acquire thread callerClass answers => exact .acquire thread callerClass answers
  | release tag => exact .release tag tag
  | exitThread => exact .exitThread
  | drop => exact .drop
  | call call =>
    cases call with
    | registerProbe slot probe => exact .registerProbe slot probe
    | threadCreate parent child kernel => exact .threadCreate parent parent child kernel kernel
    | _ => exact .call rfl rfl rfl rfl

def Step.bared (bare : List ThreadId) : Step → List ThreadId
  | .call (.threadCreate _ child _) => child :: bare
  | .call (.registerProbe slot _) => bare.filter (· ≠ slot)
  | _ => bare

theorem Step.bared_call {call : Call} (hfills : call.fills = []) (hprobe : call.probe? = none)
    (bare : List ThreadId) : (Step.call call).bared bare = bare := by
  cases call with
  | registerProbe => cases hprobe
  | threadCreate => cases hfills
  | _ => rfl

/-- The slots that some steps filled and registered no probe for since. -/
def bareSlots (steps : List Step) : List ThreadId := steps.foldl Step.bared []

namespace Watch

/-- What a replay watches, and what the recording does: all probes but those of some slots. -/
structure Shadows (bare : List ThreadId) (w w' : Watch) : Prop where
  holder : w'.holder = w.holder
  marked : w'.marked = w.marked
  probe : ∀ slot, w'.probe slot = if slot ∈ bare then none else w.probe slot

variable {bare : List ThreadId} {w w' : Watch}

theorem Shadows.wait (h : w.Shadows bare w') (retries : Nat) (answers : ExitProbe → Nat → Bool) :
    w'.wait retries answers = (w.wait retries answers).filter (·.thread ∉ bare) := by
  rw [Watch.wait, Watch.wait, h.marked]
  cases w.marked with
  | none => rfl
  | some thread =>
    rw [Option.bind_some, Option.bind_some, h.probe]
    by_cases hmain : thread = .main
    · rw [if_pos hmain, if_pos hmain]
      rfl
    · rw [if_neg hmain, if_neg hmain]
      by_cases hbare : thread ∈ bare
      · rw [if_pos hbare]
        cases w.probe thread <;> simp [Option.filter, hbare]
      · rw [if_neg hbare]
        cases w.probe thread <;> simp [Option.filter, hbare]

theorem Shadows.after (h : w.Shadows bare w') {step step' : Step} (hsame : step.SameProbes step') :
    (w.after .record step).Shadows (step.bared bare) (w'.after .replay step') := by
  cases hsame with
  | acquire thread callerClass answers =>
    refine ⟨rfl, rfl, fun slot => ?_⟩
    simp only [Watch.after, Step.bared, h.marked, h.probe]
    split <;> simp
  | release => exact ⟨rfl, h.marked, h.probe⟩
  | drop => exact ⟨rfl, h.marked, h.probe⟩
  | exitThread => exact ⟨rfl, h.holder, h.probe⟩
  | registerProbe slot probe =>
    refine ⟨h.holder, h.marked, fun slot' => ?_⟩
    simp only [Watch.after, Call.probesAfter, Step.bared, h.probe, List.mem_filter]
    by_cases heq : slot' = slot <;> simp [heq]
  | threadCreate parent parent' child =>
    refine ⟨h.holder, h.marked, fun slot => ?_⟩
    simp only [Watch.after, Call.probesAfter, Step.bared, h.probe, List.mem_cons, Mode.isReplay]
    by_cases heq : slot = child <;> simp [heq]
  | call fills probe fills' probe' =>
    refine ⟨h.holder, h.marked, ?_⟩
    simp only [Watch.after, Call.probesAfter_of_none fills probe,
      Call.probesAfter_of_none fills' probe', Step.bared_call fills probe]
    exact h.probe

theorem probe_after_threadCreate (w : Watch) (parent child : ThreadId) (kernel : KernelTid) :
    (w.after .record (.call (.threadCreate parent child kernel))).probe = w.probe := by
  funext slot
  simp [Watch.after, Call.probesAfter, Mode.isReplay]

theorem Shadows.of_bare (h : w.Shadows bare w') (hnone : ∀ slot ∈ bare, w.probe slot = none) :
    w.Shadows [] w' := by
  refine ⟨h.holder, h.marked, fun slot => ?_⟩
  rw [h.probe, if_neg List.not_mem_nil]
  split
  · rename_i hbare
    exact (hnone slot hbare).symm
  · rfl

theorem bare_after (h : ∀ slot ∈ bare, w.probe slot = none) {step : Step}
    (hfree : ∀ parent child kernel, step = .call (.threadCreate parent child kernel) →
      w.probe child = none) :
    ∀ slot ∈ step.bared bare, (w.after .record step).probe slot = none := by
  cases step with
  | acquire thread callerClass answers =>
    intro slot hslot
    simp only [Watch.after, h slot hslot, ite_self]
  | release | drop | exitThread => exact h
  | call call =>
    intro slot hslot
    cases call with
    | registerProbe given probe =>
      obtain ⟨hbare, hne⟩ := List.mem_filter.mp hslot
      exact (if_neg (of_decide_eq_true hne)).trans (h slot hbare)
    | threadCreate parent child kernel =>
      rw [probe_after_threadCreate]
      rcases List.mem_cons.mp hslot with rfl | hbare
      · exact hfree parent slot kernel rfl
      · exact h slot hbare
    | _ => exact h slot hslot

end Watch

namespace Token

def upTo (t : Token) (steps : List Step) (n : Nat) : Token := (t.run (steps.take n)).2

theorem run_take (t : Token) (steps : List Step) (n : Nat) :
    (t.run (steps.take n)).1 = (t.run steps).1.take n := by
  induction steps generalizing t n with
  | nil => rw [List.take_nil, run, List.take_nil]
  | cons step rest ih =>
    cases n with
    | zero => rfl
    | succ n => exact congrArg (List.cons _) (ih (t.step step).2 n)

theorem getElem?_run (t : Token) (steps : List Step) (n : Nat) :
    (t.run steps).1[n]? = steps[n]?.map fun step => ((t.upTo steps n).step step).1 := by
  induction steps generalizing t n with
  | nil => rfl
  | cons step rest ih =>
    cases n with
    | zero => rfl
    | succ n => exact ih (t.step step).2 n

theorem upTo_succ {t : Token} {steps : List Step} {n : Nat} {step : Step}
    (h : steps[n]? = some step) : t.upTo steps (n + 1) = ((t.upTo steps n).step step).2 := by
  rw [upTo, upTo, List.take_add_one, h, run_append]
  rfl

theorem upTo_take (t : Token) (steps : List Step) {m n : Nat} (h : m ≤ n) :
    t.upTo (steps.take n) m = t.upTo steps m := by
  rw [upTo, List.take_take, Nat.min_eq_left h, upTo]

theorem isDone_take {t : Token} {steps : List Step} (h : (t.run steps).1.all (·.isDone)) (n : Nat) :
    (t.run (steps.take n)).1.all (·.isDone) := by
  rw [run_take]
  exact List.all_eq_true.mpr fun outcome hmem =>
    List.all_eq_true.mp h outcome (List.mem_of_mem_take hmem)

theorem isDone_at {t : Token} {steps : List Step} (h : (t.run steps).1.all (·.isDone)) {n : Nat}
    {step : Step} (hstep : steps[n]? = some step) : ((t.upTo steps n).step step).1.isDone := by
  refine List.all_eq_true.mp h _ (List.mem_of_getElem? (i := n) ?_)
  rw [getElem?_run, hstep, Option.map_some]

theorem isDone_cons {t : Token} {step : Step} {rest : List Step}
    (h : (t.run (step :: rest)).1.all (·.isDone)) :
    (t.step step).1.isDone ∧ ((t.step step).2.run rest).1.all (·.isDone) :=
  Bool.and_eq_true_iff.mp h

/-- A recording and a replay that are as far as each other, and what the replay lost. -/
structure Waits (config config' : Config) (bare : List ThreadId) (t t' : Token) : Prop where
  ready : t.Ready config
  ready' : t'.Ready config'
  records : t.session.mode = .record
  replays : t'.session.Replays
  shadows : t.watch.Shadows bare t'.watch

variable {config config' : Config} {bare : List ThreadId} {t t' : Token}

theorem Waits.step (h : Waits config config' bare t t') {step step' : Step}
    (hsame : step.SameProbes step') (hdone : (t.step step).1.isDone)
    (hdone' : (t'.step step').1.isDone) :
    Waits config config' (step.bared bare) (t.step step).2 (t'.step step').2 where
  ready := (h.ready.step step).1
  ready' := (h.ready'.step step').1
  records := (step_mode h.ready.active step).trans h.records
  replays := step_replays h.replays step'
  shadows := by
    rw [step_watch h.ready (.inl h.records) hdone, step_watch h.ready' (.inr h.replays) hdone',
      h.records, h.replays.mode_eq]
    exact h.shadows.after hsame

theorem Waits.run (h : Waits config config' bare t t') {steps steps' : List Step}
    (hsame : List.Forall₂ Step.SameProbes steps steps') (hdone : (t.run steps).1.all (·.isDone))
    (hdone' : (t'.run steps').1.all (·.isDone)) :
    Waits config config' (steps.foldl Step.bared bare) (t.run steps).2 (t'.run steps').2 := by
  induction hsame generalizing bare t t' with
  | nil => exact h
  | cons hstep _ ih =>
    obtain ⟨hfirst, hrest⟩ := isDone_cons hdone
    obtain ⟨hfirst', hrest'⟩ := isDone_cons hdone'
    exact ih (h.step hstep hfirst hfirst') hrest hrest'

/-- If every slot that is filled has no probe, no slot has one that got none since it was filled. -/
theorem bare_run (hready : t.Ready config) (hrecords : t.session.mode = .record)
    (hbare : ∀ slot ∈ bare, t.watch.probe slot = none) {steps : List Step}
    (hdone : (t.run steps).1.all (·.isDone))
    (hfree : ∀ n parent child kernel, steps[n]? = some (.call (.threadCreate parent child kernel)) →
      (t.upTo steps n).watch.probe child = none) :
    ∀ slot ∈ steps.foldl Step.bared bare, (t.run steps).2.watch.probe slot = none := by
  induction steps generalizing bare t with
  | nil => exact hbare
  | cons step rest ih =>
    obtain ⟨hfirst, hrest⟩ := isDone_cons hdone
    have hwatch := step_watch hready (.inl hrecords) hfirst
    have hlast : (t.run (step :: rest)).2 = ((t.step step).2.run rest).2 := rfl
    rw [hrecords] at hwatch
    rw [hlast, List.foldl_cons]
    refine ih (hready.step step).1 ((step_mode hready.active step).trans hrecords) ?_ hrest ?_
    · rw [hwatch]
      refine Watch.bare_after hbare ?_
      intro parent child kernel hcreate
      exact hfree 0 parent child kernel (congrArg some hcreate)
    · intro n parent child kernel hcreate
      exact hfree (n + 1) parent child kernel hcreate

theorem Waits.upTo (h : Waits config config' [] t t') {steps steps' : List Step}
    (hsame : List.Forall₂ Step.SameProbes steps steps') (hdone : (t.run steps).1.all (·.isDone))
    (hdone' : (t'.run steps').1.all (·.isDone)) (n : Nat) :
    Waits config config' (bareSlots (steps.take n)) (t.upTo steps n) (t'.upTo steps' n) :=
  h.run (List.forall₂_take n hsame) (isDone_take hdone n) (isDone_take hdone' n)

theorem Waits.granted {steps steps' : List Step} {n : Nat}
    (h : Waits config config' bare (t.upTo steps n) (t'.upTo steps' n))
    (hretries : config'.exitWaitRetries = config.exitWaitRetries)
    (hsame : List.Forall₂ Step.SameProbes steps steps') (hdone' : (t'.run steps').1.all (·.isDone))
    {wait : Option Session.ExitWait}
    (hgranted : (t.run steps).1[n]? = some (.asked (.ok (.granted wait)))) :
    (t'.run steps').1[n]? =
      some (.asked (.ok (.granted (wait.filter (·.thread ∉ bare))))) := by
  rw [getElem?_run] at hgranted ⊢
  obtain ⟨step, hstep, hgranted⟩ := Option.map_eq_some_iff.mp hgranted
  obtain ⟨hn, rfl⟩ := List.getElem?_eq_some_iff.mp hstep
  have hn' : n < steps'.length := hsame.length_eq ▸ hn
  have hstep' : steps'[n]? = some steps'[n] := List.getElem?_eq_getElem hn'
  have hsteps : steps[n].SameProbes steps'[n] := hsame.get hn hn'
  have hdone' := isDone_at hdone' hstep'
  rw [hstep', Option.map_some]
  generalize steps[n] = step at hgranted hsteps
  generalize steps'[n] = step' at hdone' hsteps ⊢
  cases hsteps with
  | acquire thread callerClass answers =>
    have hwait := (acquire_watch h.ready (by rw [hgranted]; rfl)).1
    rw [(acquire_watch h.ready' hdone').1, h.shadows.wait, hretries]
    rw [hgranted] at hwait
    cases hwait
    rfl
  | release | exitThread | drop | registerProbe | threadCreate | call => cases hgranted

/-- Two runs that wait for the same threads, polling the same probes as often, and have the same probes
registered after every step. -/
structure Agree (t t' : Token) (steps steps' : List Step) : Prop where
  waits : ∀ (n : Nat) wait, (t.run steps).1[n]? = some (.asked (.ok (.granted wait))) →
    (t'.run steps').1[n]? = some (.asked (.ok (.granted wait)))
  probes : ∀ n slot, (t'.upTo steps' n).session.identities.probeOf? slot =
    (t.upTo steps n).session.identities.probeOf? slot

/-- Two runs that differ in nothing but that the second one has no probe in the slots that were filled
and got none since, and does not wait for these threads. -/
structure LosesBare (t t' : Token) (steps steps' : List Step) : Prop where
  waits : ∀ (n : Nat) wait, (t.run steps).1[n]? = some (.asked (.ok (.granted wait))) →
    (t'.run steps').1[n]? =
      some (.asked (.ok (.granted (wait.filter (·.thread ∉ bareSlots (steps.take n))))))
  probes : ∀ n slot, (t'.upTo steps' n).session.identities.probeOf? slot =
    if slot ∈ bareSlots (steps.take n) then none
    else (t.upTo steps n).session.identities.probeOf? slot

/-- Nowhere in a run is a slot filled in which a probe is registered. -/
def FillsUnprobed (t : Token) (steps : List Step) : Prop :=
  ∀ (n : Nat) parent child kernel, steps[n]? = some (.call (.threadCreate parent child kernel)) →
    (t.upTo steps n).session.identities.probeOf? child = none

section scripts

variable {steps steps' : List Step}

theorem Waits.losesBare (h : Waits config config' [] t t')
    (hretries : config'.exitWaitRetries = config.exitWaitRetries)
    (hsame : List.Forall₂ Step.SameProbes steps steps') (hdone : (t.run steps).1.all (·.isDone))
    (hdone' : (t'.run steps').1.all (·.isDone)) : LosesBare t t' steps steps' := by
  constructor
  · intro n wait hgranted
    exact (h.upTo hsame hdone hdone' n).granted hretries hsame hdone' hgranted
  · intro n slot
    exact (h.upTo hsame hdone hdone' n).shadows.probe slot

theorem Waits.fillsUnprobed (h : Waits config config' [] t t')
    (hsame : List.Forall₂ Step.SameProbes steps steps') (hdone : (t.run steps).1.all (·.isDone))
    (hdone' : (t'.run steps').1.all (·.isDone)) (hagree : Agree t t' steps steps') :
    t.FillsUnprobed steps := by
  intro n parent child kernel hcreate
  have hwaits := h.upTo hsame hdone hdone' n
  have hwatch := step_watch hwaits.ready (.inl hwaits.records) (isDone_at hdone hcreate)
  rw [hwaits.records] at hwatch
  have hkept : (t.upTo steps (n + 1)).session.identities.probeOf? =
      (t.upTo steps n).session.identities.probeOf? := by
    rw [upTo_succ hcreate]
    exact (congrArg Watch.probe hwatch).trans (Watch.probe_after_threadCreate ..)
  have hbare : child ∈ bareSlots (steps.take (n + 1)) := by
    rw [bareSlots, List.take_add_one, hcreate, List.foldl_append]
    exact List.mem_cons_self
  have hlost := (h.upTo hsame hdone hdone' (n + 1)).shadows.probe child
  rw [if_pos hbare] at hlost
  rw [← hkept, ← hagree.probes]
  exact hlost

theorem Waits.agree (h : Waits config config' [] t t')
    (hretries : config'.exitWaitRetries = config.exitWaitRetries)
    (hsame : List.Forall₂ Step.SameProbes steps steps') (hdone : (t.run steps).1.all (·.isDone))
    (hdone' : (t'.run steps').1.all (·.isDone)) (hfree : t.FillsUnprobed steps) :
    Agree t t' steps steps' := by
  have hwaits (n : Nat) : Waits config config' [] (t.upTo steps n) (t'.upTo steps' n) := by
    have hwaits := h.upTo hsame hdone hdone' n
    refine { hwaits with shadows := hwaits.shadows.of_bare ?_ }
    refine bare_run h.ready h.records (fun _ hslot => (List.not_mem_nil hslot).elim)
      (isDone_take hdone n) ?_
    intro m parent child kernel hcreate
    rw [List.getElem?_take] at hcreate
    split at hcreate
    · rename_i hm
      rw [upTo_take _ _ (Nat.le_of_lt hm)]
      exact hfree m parent child kernel hcreate
    · cases hcreate
  constructor
  · intro n wait hgranted
    have hall : wait.filter (·.thread ∉ []) = wait := by cases wait <;> simp [Option.filter]
    have hgranted' := (hwaits n).granted hretries hsame hdone' hgranted
    rwa [hall] at hgranted'
  · intro n slot
    exact ((hwaits n).shadows.probe slot).trans (if_neg List.not_mem_nil)

end scripts

theorem waits_start (sink : Sink) (log : Bytes) (config config' : Config)
    (layout layout' : Guest.RegisterLayout) :
    Waits { config with mode := .record } { config' with mode := .replay } []
      (recording sink config layout) (replaying log config' layout') :=
  ⟨ready_of_opened (.recording sink config layout),
    ready_of_opened (.replaying (.ofBytes log) config' layout'), rfl,
    replaying_replays log config' layout', rfl, rfl, fun _ => rfl⟩

/-- A recording, and a replay of its log or of any other one, in which the same threads say the same of
the same probes, and everything succeeds, differ at most in the probes of the slots that were filled and
got no probe since: these the replay has lost, and does not poll. So both wait for the same threads
exactly if no slot is ever filled in which a probe is registered. -/
theorem waits_shared_unless_filled {sink : Sink} {log : Bytes} {config config' : Config}
    {layout layout' : Guest.RegisterLayout} {steps steps' : List Step}
    (hretries : config'.exitWaitRetries = config.exitWaitRetries)
    (hsame : List.Forall₂ Step.SameProbes steps steps')
    (hdone : ((recording sink config layout).run steps).1.all (·.isDone))
    (hdone' : ((replaying log config' layout').run steps').1.all (·.isDone)) :
    LosesBare (recording sink config layout) (replaying log config' layout') steps steps' ∧
      (Agree (recording sink config layout) (replaying log config' layout') steps steps' ↔
        (recording sink config layout).FillsUnprobed steps) := by
  have hstart := waits_start sink log config config' layout layout'
  exact ⟨hstart.losesBare hretries hsame hdone hdone', hstart.fillsUnprobed hsame hdone hdone',
    hstart.agree hretries hsame hdone hdone'⟩

/-- A thread whose probe is registered before it is created goes, and so does the next one in its slot,
whose probe is registered after that. -/
def twoLives : List Step :=
  [.acquire .main .normal fun _ _ => true, .call (.registerProbe ⟨2⟩ ⟨7⟩),
    .call (.threadCreate .main ⟨2⟩ ⟨77⟩), .release (.ofBytes [1]),
    .acquire ⟨2⟩ .normal fun _ _ => true, .exitThread, .acquire .main .normal fun _ _ => true,
    .call (.threadCreate .main ⟨2⟩ ⟨78⟩), .call (.registerProbe ⟨2⟩ ⟨8⟩), .release (.ofBytes [1]),
    .acquire ⟨2⟩ .normal fun _ _ => true, .exitThread, .acquire .main .normal fun _ _ => true]

def afterTwoLives : Token :=
  replaying ((recording {} {} .x86).run twoLives).2.session.held {} .x86

theorem waits_shared_unless_filled_twice :
    ((recording {} {} .x86).run twoLives).1.all (·.isDone) ∧
      (afterTwoLives.run twoLives).1.all (·.isDone) ∧
      (afterTwoLives.run twoLives).1[6]? = some (.asked (.ok (.granted none))) ∧
      (afterTwoLives.run twoLives).1[12]? =
        some (.asked (.ok (.granted (some ⟨⟨2⟩, ⟨8⟩, ⟨1, true⟩⟩)))) ∧
      ¬(recording {} {} .x86).FillsUnprobed twoLives := by
  have hsame : List.Forall₂ Step.SameProbes twoLives twoLives :=
    List.forall₂_same.mpr fun step _ => .refl step
  have hdone : ((recording {} {} .x86).run twoLives).1.all (·.isDone) := by decide +kernel
  have hdone' : (afterTwoLives.run twoLives).1.all (·.isDone) := by decide +kernel
  obtain ⟨hloses, _⟩ := waits_shared_unless_filled rfl hsame hdone hdone'
  have hfirst := hloses.waits 6 (some ⟨⟨2⟩, ⟨7⟩, ⟨1, true⟩⟩) (by decide +kernel)
  have hsecond := hloses.waits 12 (some ⟨⟨2⟩, ⟨8⟩, ⟨1, true⟩⟩) (by decide +kernel)
  refine ⟨hdone, hdone', hfirst, hsecond, ?_⟩
  intro hfills
  have hnone := hfills 2 .main ⟨2⟩ ⟨77⟩ rfl
  have hprobe : ((recording {} {} .x86).upTo twoLives 2).session.identities.probeOf? ⟨2⟩ =
      some ⟨7⟩ := by decide +kernel
  cases hprobe.symm.trans hnone

/-- A probe that is registered before its thread is created is polled when the run is recorded, and not
when it is replayed. -/
theorem early_probe_lost :
    ((recording {} {} .x86).run twoLives).1.all (·.isDone) ∧
      (afterTwoLives.run twoLives).1.all (·.isDone) ∧
      ¬Agree (recording {} {} .x86) afterTwoLives twoLives twoLives := by
  refine ⟨by decide +kernel, by decide +kernel, fun hagree => ?_⟩
  have hrecorded : ((recording {} {} .x86).upTo twoLives 3).session.identities.probeOf? ⟨2⟩ =
      some ⟨7⟩ := by decide +kernel
  have hreplayed : (afterTwoLives.upTo twoLives 3).session.identities.probeOf? ⟨2⟩ = none := by
    decide +kernel
  cases hreplayed.symm.trans ((hagree.probes 3 ⟨2⟩).trans hrecorded)

end Token

end Retrace
