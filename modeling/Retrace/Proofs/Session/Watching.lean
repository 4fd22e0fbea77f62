import Retrace.Proofs.Session.Departure
import Retrace.Proofs.Session.FaithfulReplay
import Retrace.Proofs.Session.IdentityHistory
import Retrace.Proofs.Session.Installing
import Retrace.Proofs.Session.Restoring

namespace Retrace

open Log

namespace IdentityTable

variable {t t' : IdentityTable}

theorem probeOf?_clear (t : IdentityTable) (slot slot' : ThreadId) :
    (t.clear slot).probeOf? slot' = t.probeOf? slot' := by
  by_cases heq : slot' = slot
  · rw [heq, probeOf?, get?_clear, Option.bind_map]
    rfl
  · have hother := t.get?_perform_of_ne (.clear slot) heq
    exact congrArg (·.bind (·.probe)) hother

theorem probeOf?_takeProbe (t : IdentityTable) (slot slot' : ThreadId) :
    (t.takeProbe slot).2.probeOf? slot' = if slot' = slot then none else t.probeOf? slot' := by
  rw [probeOf?, get?_takeProbe]
  split
  · rw [Option.bind_map]
    cases t.get? slot <;> rfl
  · rfl

theorem probeOf?_registerProbe {slot : ThreadId} {probe : ExitProbe}
    (h : t.registerProbe slot probe = .ok t') (slot' : ThreadId) :
    t'.probeOf? slot' = if slot' = slot then some probe else t.probeOf? slot' := by
  obtain ⟨_, hslot⟩ := registerProbe_ok h
  have hperforms := t.perform_registerProbe slot probe
  rw [perform, h] at hperforms
  cases hperforms with
  | done _ _ changes =>
    have hget : t'.get? slot' = if slot' = slot then _ else t.get? slot' := changes slot'
    rw [probeOf?, hget]
    split
    · rename_i heq
      obtain ⟨identity, hidentity⟩ := Option.isSome_iff_exists.mp (get?_isSome.mpr hslot)
      rw [heq, hidentity]
      rfl
    · rfl

end IdentityTable

def Call.probe? : Call → Option (ThreadId × ExitProbe)
  | .registerProbe slot probe => some (slot, probe)
  | _ => none

/-- The probes that are registered after a call. A slot that is filled loses its probe in a replay, and
keeps it in a recording. -/
def Call.probesAfter (mode : Mode) (probes : ThreadId → Option ExitProbe) :
    Call → ThreadId → Option ExitProbe
  | .registerProbe slot probe, slot' => if slot' = slot then some probe else probes slot'
  | .threadCreate _ child _, slot => if mode.isReplay ∧ slot = child then none else probes slot
  | _, slot => probes slot

theorem Call.probesAfter_of_none {call : Call} (hfills : call.fills = []) (hprobe : call.probe? = none)
    (mode : Mode) (probes : ThreadId → Option ExitProbe) : call.probesAfter mode probes = probes := by
  cases call with
  | registerProbe => cases hprobe
  | threadCreate => cases hfills
  | _ => rfl

/-- Whether a step is done: a thread that asked is let run, a turn ended, a call gave no error. -/
def Outcome.isDone : Outcome → Bool
  | .asked (.ok .notYet) => false
  | outcome => outcome.succeeds

/-- Who runs, who is marked, and which probes are registered. -/
structure Watch where
  holder : Option ThreadId
  marked : Option ThreadId
  probe : ThreadId → Option ExitProbe

namespace Watch

def wait (w : Watch) (retries : Nat) (answers : ExitProbe → Nat → Bool) : Option Session.ExitWait :=
  w.marked.bind fun thread =>
    if thread = .main then none
    else (w.probe thread).map fun probe => ⟨thread, probe, ExitProbe.wait (answers probe) retries⟩

def after (w : Watch) (mode : Mode) : Step → Watch
  | .acquire thread _ _ => {
      holder := thread
      marked := none
      probe := fun slot => if w.marked = slot ∧ slot ≠ .main then none else w.probe slot }
  | .release _ | .drop => { w with holder := none }
  | .exitThread => { w with holder := none, marked := w.holder }
  | .call call => { w with probe := call.probesAfter mode w.probe }

end Watch

namespace Session

theorem awaitExit_fst {s : Session} {w : Watch} (hmarked : w.marked = s.schedule.exiting)
    (hprobe : w.probe = s.identities.probeOf?) (answers : ExitProbe → Nat → Bool) :
    (s.awaitExit answers).1 = w.wait s.config.exitWaitRetries.toNat answers := by
  rw [awaitExit, Schedule.takeExiting, Watch.wait, hmarked, hprobe]
  cases s.schedule.exiting with
  | none => rfl
  | some thread =>
    dsimp only [Option.bind_some]
    by_cases hmain : thread = .main
    · rw [if_pos hmain, if_pos (ThreadId.isMain_iff.mpr hmain)]
    · rw [if_neg hmain, if_neg fun h => hmain (ThreadId.isMain_iff.mp h),
        ← s.identities.takeProbe_fst thread]
      rcases s.identities.takeProbe thread with ⟨_ | probe, identities⟩
      · rfl
      · rfl

theorem probeOf?_awaitExit (s : Session) (answers : ExitProbe → Nat → Bool) (slot : ThreadId) :
    (s.awaitExit answers).2.identities.probeOf? slot =
      if s.schedule.exiting = some slot ∧ slot ≠ .main then none
      else s.identities.probeOf? slot := by
  rw [awaitExit, Schedule.takeExiting]
  cases s.schedule.exiting with
  | none => rfl
  | some thread =>
    dsimp only
    by_cases hmain : thread = .main
    · rw [if_pos (ThreadId.isMain_iff.mpr hmain), hmain, if_neg]
      rintro ⟨hslot, hne⟩
      exact hne (Option.some.inj hslot).symm
    · rw [if_neg fun h => hmain (ThreadId.isMain_iff.mp h)]
      have hprobe := s.identities.takeProbe_fst thread
      have htaken := s.identities.probeOf?_takeProbe thread slot
      have hcond : (some thread = some slot ∧ slot ≠ .main) ↔ slot = thread :=
        ⟨fun h => (Option.some.inj h.1).symm, fun h => ⟨congrArg some h.symm, h ▸ hmain⟩⟩
      rw [if_congr hcond rfl rfl]
      cases htake : s.identities.takeProbe thread with
      | mk probe identities =>
        rw [htake] at hprobe htaken
        cases probe with
        | none =>
          dsimp only
          split
          · rename_i heq
            rw [heq, ← hprobe]
          · rfl
        | some probe =>
          dsimp only
          split
          · exact htaken
          · exact htaken

theorem threadCreate_record {s : Session} (h : s.mode = .record) (parent child : ThreadId)
    (kernel : KernelTid) : (s.threadCreate parent child kernel).2.identities = s.identities := by
  rw [threadCreate]
  split
  · rfl
  · split
    · rfl
    · obtain ⟨channel, hmode, hchannel⟩ := s.process_channel ⟨s.running, .threadCreate child kernel⟩
      split <;> rename_i hprocess <;> rw [hprocess] at hchannel
      · cases hchannel
        rfl
      · have hrecord : mode { s with channel } = .record := hmode.trans h
        cases hchannel
        rw [hrecord]

theorem perform_identities (s : Session) {call : Call} (hfills : call.fills = [])
    (hprobe : call.probe? = none) : (s.perform call).2.identities = s.identities := by
  refine (carries_view identities fun _ _ => rfl).perform s call ?_ ?_ ?_ ?_ ?_
  · rintro parent child kernel rfl
    cases hfills
  · exact fun _ _ _ _ => rfl
  · intro s before counter recorded
    rw [checkCounter]
    split <;> rfl
  · rintro slot probe rfl
    cases hprobe
  · intro s
    rw [close]
    split
    · rfl
    · rw [finish]
      split
      · split <;> rfl
      · rfl

/-- A session that records, or replays a log in memory. -/
def OnLog (s : Session) : Prop := s.mode = .record ∨ s.Replays

theorem probeOf?_threadCreate {s s' : Session} (h : s.OnLog) {parent child : ThreadId}
    {kernel shown : KernelTid} (hok : s.threadCreate parent child kernel = (.ok shown, s'))
    (slot : ThreadId) :
    s'.identities.probeOf? slot =
      if s.mode.isReplay ∧ slot = child then none else s.identities.probeOf? slot := by
  rcases h with hrecord | hreplays
  · have hsame := threadCreate_record hrecord parent child kernel
    rw [hok] at hsame
    rw [hsame, hrecord, if_neg fun h => Bool.false_ne_true h.1]
  · obtain ⟨_, _, _, _, hinstalls⟩ := threadCreate_ok hreplays hok
    have hreplay : s.mode.isReplay := by rw [hreplays.mode_eq]; rfl
    by_cases heq : slot = child
    · rw [if_pos ⟨hreplay, heq⟩, heq, IdentityTable.probeOf?, hinstalls.installed]
      rfl
    · rw [if_neg fun h => heq h.2, IdentityTable.probeOf?, hinstalls.others slot heq]
      rfl

theorem probeOf?_perform {s : Session} (h : s.OnLog) {call : Call}
    (hok : (s.perform call).1.result.isOk) :
    (s.perform call).2.identities.probeOf? = call.probesAfter s.mode s.identities.probeOf? := by
  have hother (hfills : call.fills = []) (hprobe : call.probe? = none) :
      (s.perform call).2.identities.probeOf? = call.probesAfter s.mode s.identities.probeOf? := by
    rw [perform_identities s hfills hprobe, Call.probesAfter_of_none hfills hprobe]
  cases call with
  | registerProbe slot probe =>
    funext slot'
    rw [perform, registerProbe] at hok ⊢
    cases hregister : s.identities.registerProbe slot probe with
    | ok identities => exact IdentityTable.probeOf?_registerProbe hregister slot'
    | error e =>
      rw [hregister] at hok
      cases hok
  | threadCreate parent child kernel =>
    funext slot
    rw [perform] at hok ⊢
    cases hcreate : s.threadCreate parent child kernel with
    | mk result s' =>
      cases result with
      | ok shown => exact probeOf?_threadCreate h hcreate slot
      | error e =>
        rw [hcreate] at hok
        cases hok
  | _ => exact hother rfl rfl

end Session

namespace Token

def watch (t : Token) : Watch := ⟨t.holder, t.session.schedule.exiting, t.session.identities.probeOf?⟩

variable {t : Token}

theorem call_watch (h : t.session.OnLog) {call : Call} (hdone : (t.step (.call call)).1.isDone) :
    (t.step (.call call)).2.watch = t.watch.after t.session.mode (.call call) := by
  have hmarked : (t.session.perform call).2.schedule.exiting = t.session.schedule.exiting :=
    congrArg Schedule.exiting (t.session.perform_stays call).schedule
  exact congrArg₂ (Watch.mk t.holder) hmarked (Session.probeOf?_perform h hdone)

theorem giveUp_watch (finish : Session → ThreadId → Except SessionError Unit × Session)
    (hturns : ∀ holder, t.session.Turns (finish t.session holder).2) :
    (t.giveUp finish).2.watch = { t.watch with holder := none } := by
  cases hholder : t.holder with
  | none => rw [giveUp_of_free hholder, watch, hholder]
  | some holder =>
    rw [giveUp_of_held hholder]
    exact congrArg₂ (Watch.mk none) (hturns holder).exiting
      (congrArg IdentityTable.probeOf? (hturns holder).identities)

theorem exitThread_watch (h : t.session.mode.isActive) (hdone : (t.step .exitThread).1.isDone) :
    (t.step .exitThread).2.watch = t.watch.after t.session.mode .exitThread := by
  have hstep : t.step .exitThread = (.gaveUp t.exitThread.1, t.exitThread.2) := rfl
  rw [hstep] at hdone ⊢
  cases hholder : t.holder with
  | none =>
    rw [exitThread, giveUp_of_free hholder] at hdone
    cases hdone
  | some holder =>
    rw [exitThread, giveUp_of_held hholder] at hdone ⊢
    rcases Session.exitThread_cases h holder with ⟨e, s', hexit, _⟩ | ⟨s', hturns, hexit⟩
    · rw [hexit] at hdone
      cases hdone
    · have hprobes : (s'.identities.clear holder).probeOf? = t.session.identities.probeOf? := by
        rw [hturns.identities]
        exact funext (t.session.identities.probeOf?_clear holder)
      rw [hexit]
      exact congrArg₂ (Watch.mk none) hholder.symm hprobes

theorem acquire_watch {config : Config} (h : t.Ready config) {thread : ThreadId}
    {callerClass : CallerClass} {answers : ExitProbe → Nat → Bool}
    (hdone : (t.step (.acquire thread callerClass answers)).1.isDone) :
    (t.step (.acquire thread callerClass answers)).1 =
        .asked (.ok (.granted (t.watch.wait config.exitWaitRetries.toNat answers))) ∧
      (t.step (.acquire thread callerClass answers)).2.watch =
        t.watch.after t.session.mode (.acquire thread callerClass answers) := by
  have hattempts := t.acquire_attempts thread callerClass answers
  have hstep : t.step (.acquire thread callerClass answers) =
      (.asked (t.acquire thread callerClass answers).1, (t.acquire thread callerClass answers).2) :=
    rfl
  rw [hstep] at hdone ⊢
  generalize t.acquire thread callerClass answers = result at hattempts hdone ⊢
  obtain ⟨answer, t'⟩ := result
  cases hattempts with
  | refused turns => cases hdone
  | waits => cases hdone
  | starts free turn =>
    have hnobody : t.watch.marked = none := h.unmarked turn
    have hprobes : (t.watch.after t.session.mode (.acquire thread callerClass answers)).probe =
        t.session.identities.probeOf? := by
      funext slot
      have hunmarked : ¬(t.watch.marked = some slot ∧ slot ≠ .main) := by
        rw [hnobody]
        exact fun h => nomatch h.1
      exact if_neg hunmarked
    rw [Watch.wait, hnobody]
    exact ⟨rfl, congrArg₂ (Watch.mk (some thread)) hnobody hprobes.symm⟩
  | granted session free turns started =>
    have hready : Ready config { session } := h.free_of_turns turns
    have hprobe : t.watch.probe = session.identities.probeOf? := by
      rw [turns.identities]
      rfl
    have hwait := Session.awaitExit_fst turns.exiting.symm hprobe answers
    rw [hready.config] at hwait
    constructor
    · rw [← hwait]
    · refine congrArg₂ (Watch.mk (some thread)) (session.exiting_awaitExit answers) ?_
      funext slot
      rw [session.probeOf?_awaitExit, turns.exiting, turns.identities]
      rfl

/-- What is watched after a step that is done depends on nothing but the mode and what was watched. -/
theorem step_watch {config : Config} (h : t.Ready config) (hlog : t.session.OnLog) {step : Step}
    (hdone : (t.step step).1.isDone) :
    (t.step step).2.watch = t.watch.after t.session.mode step := by
  cases step with
  | acquire => exact (acquire_watch h hdone).2
  | release tag =>
    exact giveUp_watch (fun session holder => session.release holder tag) fun _ =>
      Session.release_turns ..
  | exitThread => exact exitThread_watch h.active hdone
  | drop =>
    exact giveUp_watch (fun session _ => (.ok (), session)) fun _ => Session.Turns.refl _
  | call => exact call_watch hlog hdone

theorem giveUp_mode (finish : Session → ThreadId → Except SessionError Unit × Session)
    (hfinish : ∀ holder, (finish t.session holder).2.mode = t.session.mode) :
    (t.giveUp finish).2.session.mode = t.session.mode :=
  giveUp_session (fun session => session.mode = t.session.mode) rfl hfinish

theorem step_mode (h : t.session.mode.isActive) (step : Step) :
    (t.step step).2.session.mode = t.session.mode := by
  cases step with
  | acquire thread callerClass answers =>
    have hattempts := t.acquire_attempts thread callerClass answers
    have hstep : (t.step (.acquire thread callerClass answers)).2 =
        (t.acquire thread callerClass answers).2 := rfl
    rw [hstep]
    generalize t.acquire thread callerClass answers = result at hattempts ⊢
    obtain ⟨answer, t'⟩ := result
    cases hattempts with
    | refused turns => exact turns.mode_eq
    | waits => rfl
    | starts => rfl
    | granted session free turns started =>
      obtain ⟨identities, warnings, hframe, _⟩ := session.awaitExit_frame answers
      rw [hframe]
      exact turns.mode_eq
  | release tag =>
    exact giveUp_mode (fun session holder => session.release holder tag) fun holder =>
      (t.session.release_turns holder tag).mode_eq
  | exitThread =>
    refine giveUp_mode Session.exitThread fun holder => ?_
    rcases Session.exitThread_cases h holder with ⟨e, s', hexit, turns⟩ | ⟨s', turns, hexit⟩
    · rw [hexit]
      exact turns.mode_eq
    · rw [hexit]
      exact turns.mode_eq
  | drop => exact giveUp_mode (fun session _ => (.ok (), session)) fun _ => rfl
  | call call => exact (t.session.perform_stays call).mode

end Token

end Retrace
