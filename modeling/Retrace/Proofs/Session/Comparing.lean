import Retrace.Proofs.Guest.FieldNumbers
import Retrace.Proofs.Session.Advancing
import Retrace.Proofs.Session.Closing
import Retrace.Proofs.Session.Departure
import Retrace.Proofs.Session.InitialStack
import Retrace.Proofs.Session.Restoring

namespace Retrace

open Log

structure Comparison where
  thread : ThreadId
  live : Bytes
  recorded : Bytes

namespace Verifier

theorem compare_eq (v : Verifier) (thread : ThreadId) (live recorded : Bytes) :
    v.compare thread live recorded =
      (v.layout.diff live recorded,
        if v.diverged < v.reportLimit.toNat then
          (v.layout.diff live recorded).map (.register thread) else [],
        { v with diverged := v.diverged + if v.layout.diff live recorded = [] then 0 else 1 }) := by
  rw [compare]
  cases hdiff : v.layout.diff live recorded with
  | nil => simp
  | cons m ms => simp

/-- Comparisons that are made one after the other: what each tells, what is reported of them, and the
verifier afterwards. -/
def compareAll (v : Verifier) :
    List Comparison → List (List Guest.FieldMismatch) × List Warning × Verifier
  | [] => ([], [], v)
  | c :: rest =>
    let (mismatches, warnings, v) := v.compare c.thread c.live c.recorded
    let (results, later, v) := v.compareAll rest
    (mismatches :: results, warnings ++ later, v)

theorem compareAll_cons (v : Verifier) (c : Comparison) (rest : List Comparison) :
    v.compareAll (c :: rest) =
      let made := v.compare c.thread c.live c.recorded
      (made.1 :: (made.2.2.compareAll rest).1, made.2.1 ++ (made.2.2.compareAll rest).2.1,
        (made.2.2.compareAll rest).2.2) := rfl

theorem compareAll_append (v : Verifier) (cs ds : List Comparison) :
    (v.compareAll (cs ++ ds)).2 =
      ((v.compareAll cs).2.1 ++ ((v.compareAll cs).2.2.compareAll ds).2.1,
        ((v.compareAll cs).2.2.compareAll ds).2.2) := by
  induction cs generalizing v with
  | nil => rfl
  | cons c cs ih =>
    rw [List.cons_append, compareAll_cons, compareAll_cons]
    dsimp only
    rw [ih, List.append_assoc]

theorem layout_compareAll (v : Verifier) (cs : List Comparison) :
    (v.compareAll cs).2.2.layout = v.layout := by
  induction cs generalizing v with
  | nil => rfl
  | cons c cs ih =>
    rw [compareAll_cons]
    dsimp only
    rw [ih, compare_eq]

theorem results_compareAll (v : Verifier) (cs : List Comparison) :
    (v.compareAll cs).1 = cs.map fun c => v.layout.diff c.live c.recorded := by
  induction cs generalizing v with
  | nil => rfl
  | cons c cs ih =>
    rw [compareAll_cons]
    dsimp only
    rw [ih, compare_eq, List.map_cons]

theorem diverged_compareAll (v : Verifier) (cs : List Comparison) :
    (v.compareAll cs).2.2.diverged = v.diverged + (v.compareAll cs).1.countP (· ≠ []) := by
  induction cs generalizing v with
  | nil => rfl
  | cons c cs ih =>
    rw [compareAll_cons]
    dsimp only
    rw [ih, compare_eq, List.countP_cons]
    by_cases hdiff : v.layout.diff c.live c.recorded = [] <;> simp [hdiff, Nat.add_assoc, Nat.add_comm]

/-- What is reported of the first comparisons that tell of anything, as many as may be. -/
def reports (limit : Nat) (cs : List Comparison) (results : List (List Guest.FieldMismatch)) :
    List Warning :=
  (((cs.zip results).filter fun made => made.2 ≠ []).take limit).flatMap fun (c, mismatches) =>
    mismatches.map (.register c.thread)

theorem warnings_compareAll (v : Verifier) (cs : List Comparison) :
    (v.compareAll cs).2.1 =
      reports (v.reportLimit.toNat - v.diverged) cs (v.compareAll cs).1 := by
  induction cs generalizing v with
  | nil => simp [reports, compareAll]
  | cons c cs ih =>
    rw [compareAll_cons, compare_eq, reports, List.zip_cons_cons, List.filter_cons]
    dsimp only
    rw [ih]
    by_cases hdiff : v.layout.diff c.live c.recorded = []
    · simp [hdiff, reports]
    · by_cases hlimit : v.diverged < v.reportLimit.toNat
      · have hroom : v.reportLimit.toNat - v.diverged =
            v.reportLimit.toNat - (v.diverged + 1) + 1 := by omega
        simp [hdiff, hlimit, hroom, reports]
      · have hroom : v.reportLimit.toNat - v.diverged = 0 := by omega
        have hroom' : v.reportLimit.toNat - (v.diverged + 1) = 0 := by omega
        simp [hdiff, hlimit, hroom, hroom', reports]

end Verifier

/-- The images of a comparison hold every field. -/
def Comparison.InRange (c : Comparison) (layout : Guest.RegisterLayout) : Prop :=
  layout.Fits c.live ∧ layout.Fits c.recorded

/-- What comparisons recall of a log: one behind the other, maybe with more between them, stand snapshots of
the threads that are compared, each as long as the live image, and their payloads are the recorded images. -/
inductive Recalls : Bytes → List Comparison → Bytes → Prop
  | skip (front behind : Bytes) : Recalls (front ++ behind) [] behind
  | next (front : Bytes) {c : Comparison} {made : List Comparison} {rest behind : Bytes} (p : Passage)
      (entry : p.entry = .snapshot c.thread c.live.length) (payload : p.payload = c.recorded)
      (later : Recalls rest made behind) : Recalls (front ++ (p.bytes ++ rest)) (c :: made) behind

namespace Recalls

theorem prepend {log behind : Bytes} {made : List Comparison} (front : Bytes)
    (h : Recalls log made behind) : Recalls (front ++ log) made behind := by
  cases h with
  | skip front' behind =>
    rw [← List.append_assoc]
    exact .skip (front ++ front') behind
  | next front' p entry payload later =>
    rw [← List.append_assoc]
    exact .next (front ++ front') p entry payload later

theorem trans {log middle behind : Bytes} {made made' : List Comparison}
    (h : Recalls log made middle) (h' : Recalls middle made' behind) :
    Recalls log (made ++ made') behind := by
  induction h with
  | skip front middle => exact h'.prepend front
  | next front p entry payload _ ih => exact .next front p entry payload (ih h')

end Recalls

def Warning.isRegister : Warning → Bool
  | .register .. => true
  | _ => false

namespace Session

def registerWarnings (s : Session) : List Warning := s.warnings.filter (·.isRegister)

/-- A replay made some comparisons with images of its log that hold every field, as the live ones do, and
nothing else was counted or reported of registers. -/
structure Makes (s : Session) (made : List Comparison) (s' : Session) : Prop where
  mode : s'.mode = s.mode
  recalls : Recalls s.unread made s'.unread
  inRange : ∀ c ∈ made, c.InRange s.verifier.layout
  verifier : s'.verifier = (s.verifier.compareAll made).2.2
  reported : s'.registerWarnings = s.registerWarnings ++ (s.verifier.compareAll made).2.1

theorem Advances.recalls {s s' : Session} (h : s.Advances s') : Recalls s.unread [] s'.unread := by
  obtain ⟨front, hfront⟩ := h
  rw [← hfront]
  exact .skip front s'.unread

theorem Makes.trans {s s' s'' : Session} {made made' : List Comparison} (h : s.Makes made s')
    (h' : s'.Makes made' s'') : s.Makes (made ++ made') s'' := by
  have hlayout : s'.verifier.layout = s.verifier.layout := by
    rw [h.verifier, Verifier.layout_compareAll]
  refine ⟨h'.mode.trans h.mode, h.recalls.trans h'.recalls, ?_, ?_, ?_⟩
  · intro c hc
    rcases List.mem_append.mp hc with hc | hc
    · exact h.inRange c hc
    · exact hlayout ▸ h'.inRange c hc
  · rw [h'.verifier, h.verifier, Verifier.compareAll_append]
  · rw [h'.reported, h.reported, h.verifier, Verifier.compareAll_append, List.append_assoc]

theorem makes_nothing {s s' : Session} (hmode : s'.mode = s.mode) (hlog : s.Advances s')
    (hverifier : s'.verifier = s.verifier) (hreported : s'.registerWarnings = s.registerWarnings) :
    s.Makes [] s' :=
  ⟨hmode, hlog.recalls, nofun, hverifier, hreported.trans (List.append_nil _).symm⟩

theorem Makes.refl (s : Session) : s.Makes [] s := makes_nothing rfl (.refl s) rfl rfl

theorem Turns.makes {s s' : Session} (h : s.Turns s') (hlog : s.Advances s') : s.Makes [] s' := by
  obtain ⟨channel, running, turn, hmode, _, rfl⟩ := h
  exact makes_nothing hmode hlog rfl rfl

theorem makes_of_channel {s : Session} {channel : Channel} (hmode : channel.mode = s.channel.mode)
    (hlog : s.Advances { s with channel }) : s.Makes [] { s with channel } :=
  makes_nothing hmode hlog rfl rfl

theorem settle_snapshot {thread : ThreadId} {length : Nat} {recorded entry : Entry}
    (h : (Entry.snapshot thread length).settle recorded = .ok entry) :
    recorded = .snapshot thread length := by
  obtain ⟨_, _, rfl, _, hbody⟩ := Entry.settle_ok_cases h
  cases hbody
  rfl

theorem compare_makes {s : Session} {channel : Channel} {live recorded : Bytes} {p : Passage}
    (hmode : channel.mode = s.channel.mode) (hroom : s.verifier.layout.minLength ≤ live.length)
    (hsame : recorded.length = live.length) (hentry : p.entry = .snapshot s.running live.length)
    (hpayload : p.payload = recorded)
    (hunread : s.unread = p.bytes ++ unread { s with channel }) :
    s.Makes [⟨s.running, live, recorded⟩] (({ s with channel } : Session).compare live recorded) := by
  refine ⟨hmode, ?_, ?_, rfl, ?_⟩
  · rw [hunread]
    exact .next [] p hentry hpayload (.skip [] _)
  · intro c hc
    cases List.mem_singleton.mp hc
    exact ⟨Guest.RegisterLayout.fits_iff.mpr hroom,
      Guest.RegisterLayout.fits_iff.mpr (hsame ▸ hroom)⟩
  · have hwarnings : ∀ w ∈ (s.verifier.compare s.running live recorded).2.1, w.isRegister := by
      rw [Verifier.compare_eq]
      dsimp only
      split
      · intro w hw
        obtain ⟨m, _, rfl⟩ := List.mem_map.mp hw
        rfl
      · exact nofun
    have hcompared : (({ s with channel } : Session).compare live recorded).warnings =
        s.warnings ++ (s.verifier.compare s.running live recorded).2.1 := rfl
    rw [registerWarnings, hcompared, List.filter_append, List.filter_eq_self.mpr hwarnings,
      Verifier.compareAll_cons]
    exact congrArg _ (List.append_nil _).symm

/-- The live image was compared if the answer is no error, and nothing else was. -/
def Compares (s : Session) (live : Bytes) (answer : Except SessionError Unit × Session) : Prop :=
  ∃ made, s.Makes made answer.2 ∧ made.map (·.live) = if answer.1.isOk then [live] else []

theorem Makes.failed {s s' : Session} (h : s.Makes [] s') (live : Bytes) (e : SessionError) :
    s.Compares live (.error e, s') := ⟨[], h, rfl⟩

theorem snapshot_compares {s : Session} (h : s.mode = .replay) (live : Bytes) :
    s.Compares live (s.snapshot live) := by
  have hactive : (!s.mode.isActive) = false := by rw [h]; rfl
  rw [snapshot]
  split
  · exact (Makes.refl s).failed live _
  · rw [hactive, if_neg Bool.false_ne_true]
    split <;> rename_i hlength
    · exact (Makes.refl s).failed live _
    · dsimp only
      generalize hbuffer :
        (if s.mode.isReplay then Verifier.scratch live.length else live) = buffer
      have hroom : buffer.length = live.length := by
        rw [← hbuffer, h]
        exact Bytes.length_zeros _
      have hrecorded := s.length_processData (.snapshot s.running live.length) buffer
      have hlog := s.processData_advances (.snapshot s.running live.length) buffer
      obtain ⟨channel, hmode, hsent⟩ :=
        s.processData_channel (.snapshot s.running live.length) buffer
      split <;> rename_i hprocess <;> rw [hprocess] at hrecorded hlog hsent <;> cases hsent
      · exact (makes_of_channel hmode hlog).failed live _
      · obtain ⟨p, hsettle, hpayload, hunread⟩ := passage_of_processData h hprocess
        have hreplay : mode { s with channel } = .replay := hmode.trans h
        rw [hreplay]
        exact ⟨_, compare_makes hmode (minLength_le_of_checkLength hlength)
          (hrecorded.trans hroom) (settle_snapshot hsettle) hpayload hunread, rfl⟩

theorem syscallArgs_compares {s : Session} (h : s.mode = .replay) (thread : ThreadId)
    (sysno : UInt32) (registers : Bytes) :
    s.Compares registers (s.syscallArgs thread sysno registers) := by
  have hactive : (!s.mode.isActive) = false := by rw [h]; rfl
  rw [syscallArgs, hactive, if_neg Bool.false_ne_true]
  split
  · exact (Makes.refl s).failed registers _
  · have hmakes := (s.process_turns (.syscallArgs thread sysno)).makes (s.process_advances _)
    split <;> rename_i hprocess <;> rw [hprocess] at hmakes
    · exact hmakes.failed registers _
    · obtain ⟨made, hmade, hlive⟩ := snapshot_compares (hmakes.mode.trans h) registers
      exact ⟨made, hmakes.trans hmade, hlive⟩

theorem perform_makes_nothing (s : Session) {call : Call} (h : call.registers? = none) :
    s.Makes [] (s.perform call).2 := by
  have hview := (carries_view (fun s : Session => (s.verifier, s.registerWarnings))
    fun _ _ => rfl).perform s call ?_ ?_ ?_ ?_ ?_
  · obtain ⟨hverifier, hreported⟩ := Prod.mk.inj hview
    exact makes_nothing (s.perform_stays call).mode (s.perform_advances call) hverifier hreported
  · intro parent child kernel _ s recorded
    rw [identify]
    split <;> rfl
  · intro live hlive
    cases h.symm.trans hlive
  · intro s before counter recorded
    rw [checkCounter]
    split
    · rfl
    · dsimp only
      split
      · simp [registerWarnings, report, Warning.isRegister]
      · simp [registerWarnings, report]
  · intro slot probe _ s
    rw [registerProbe]
    split <;> rfl
  · intro s
    rw [close]
    split
    · rfl
    · obtain ⟨channel, _, _, hfinish⟩ := s.finish_eq
      rw [hfinish]
      cases s.channel.syncFailure? <;> simp [registerWarnings, Warning.isRegister]

end Session

def Step.compared? : Step → Outcome → Option Bytes
  | .call brought, .replied reply => if reply.result.isOk then brought.registers? else none
  | _, _ => none

theorem Step.compared?_of_none {call : Call} (h : call.registers? = none) (reply : Reply) :
    (Step.call call).compared? (.replied reply) = none := by
  rw [compared?, h, ite_self]

/-- The register images that were compared, one for each call that brings one and succeeds. -/
def compared (steps : List Step) (outcomes : List Outcome) : List Bytes :=
  (steps.zip outcomes).filterMap fun (step, outcome) => step.compared? outcome

theorem compared_cons (step : Step) (steps : List Step) (outcome : Outcome)
    (outcomes : List Outcome) :
    compared (step :: steps) (outcome :: outcomes) =
      (step.compared? outcome).toList ++ compared steps outcomes := by
  rw [compared, List.zip_cons_cons, List.filterMap_cons]
  dsimp only
  cases step.compared? outcome <;> rfl

theorem Session.perform_makes {s : Session} (h : s.mode = .replay) (call : Call) :
    ∃ made, s.Makes made (s.perform call).2 ∧
      made.map (·.live) = ((Step.call call).compared? (.replied (s.perform call).1)).toList := by
  have himage {registers : Bytes} {answer : Except SessionError Unit × Session}
      (hcompares : s.Compares registers answer) :
      ∃ made, s.Makes made answer.2 ∧ made.map (·.live) =
        (if (answer.1.map Value.ofUnit).isOk then some registers else none).toList := by
    obtain ⟨made, hmade, hlive⟩ := hcompares
    refine ⟨made, hmade, ?_⟩
    rw [hlive]
    cases answer.1 <;> rfl
  by_cases hnone : call.registers? = none
  · refine ⟨[], s.perform_makes_nothing hnone, ?_⟩
    rw [Step.compared?_of_none hnone]
    rfl
  · cases call with
    | syscallArgs thread sysno registers => exact himage (syscallArgs_compares h thread sysno registers)
    | initGuestState registers =>
      have hactive : (!s.mode.isActive) = false := by rw [h]; rfl
      rw [perform, initGuestState, hactive, if_neg Bool.false_ne_true]
      exact himage (snapshot_compares h registers)
    | snapshot registers => exact himage (snapshot_compares h registers)
    | _ => exact (hnone rfl).elim

namespace Token

theorem acquire_makes (t : Token) (thread : ThreadId) (callerClass : CallerClass)
    (answers : ExitProbe → Nat → Bool) :
    t.session.Makes [] (t.acquire thread callerClass answers).2.session := by
  have hattempts := t.acquire_attempts thread callerClass answers
  have hlog := t.acquire_advances thread callerClass answers
  generalize t.acquire thread callerClass answers = result at hattempts hlog
  obtain ⟨answer, t'⟩ := result
  cases hattempts with
  | refused turns => exact turns.makes hlog
  | waits => exact Session.makes_nothing rfl hlog rfl rfl
  | starts free turn => exact Session.makes_nothing rfl hlog rfl rfl
  | granted session free turns started =>
    obtain ⟨identities, warnings, hframe, _⟩ := session.awaitExit_frame answers
    have hfrozen := session.awaitExit_frozen answers
    obtain ⟨waits, hwarnings⟩ := hfrozen.warnings
    obtain ⟨channel, running, turn, hmode, _, rfl⟩ := turns
    refine Session.makes_nothing (hfrozen.mode.trans hmode) hlog ?_ ?_
    · rw [hframe]
    · simp [Session.registerWarnings, hwarnings, Warning.isRegister]

theorem giveUp_makes (t : Token)
    (finish : Session → ThreadId → Except SessionError Unit × Session)
    (hfinish : ∀ holder, t.session.Makes [] (finish t.session holder).2) :
    t.session.Makes [] (t.giveUp finish).2.session :=
  giveUp_session (t.session.Makes []) (.refl t.session) hfinish

theorem step_makes {t : Token} (h : t.session.mode = .replay) (step : Step) :
    ∃ made, t.session.Makes made (t.step step).2.session ∧
      made.map (·.live) = (step.compared? (t.step step).1).toList := by
  cases step with
  | acquire thread callerClass answers =>
    exact ⟨[], t.acquire_makes thread callerClass answers, rfl⟩
  | release tag =>
    refine ⟨[], t.giveUp_makes (fun session thread => session.release thread tag) ?_, rfl⟩
    exact fun holder =>
      (t.session.release_turns holder tag).makes (t.session.release_advances holder tag)
  | exitThread =>
    refine ⟨[], t.giveUp_makes Session.exitThread ?_, rfl⟩
    intro holder
    have hactive : t.session.mode.isActive := by rw [h]; rfl
    have hlog := t.session.exitThread_advances holder
    rcases Session.exitThread_cases hactive holder with
      ⟨e, s', hexit, hturns⟩ | ⟨s', hturns, hexit⟩
    · rw [hexit] at hlog ⊢
      exact hturns.makes hlog
    · rw [hexit] at hlog ⊢
      exact (hturns.makes hlog).trans (Session.makes_nothing rfl (.refl _) rfl rfl)
  | drop =>
    refine ⟨[], t.giveUp_makes (fun session _ => (.ok (), session)) ?_, rfl⟩
    exact fun _ => .refl t.session
  | call call => exact Session.perform_makes h call

theorem run_makes {t : Token} (h : t.session.mode = .replay) (steps : List Step) :
    ∃ made, t.session.Makes made (t.run steps).2.session ∧
      made.map (·.live) = compared steps (t.run steps).1 := by
  induction steps generalizing t with
  | nil => exact ⟨[], .refl t.session, rfl⟩
  | cons step rest ih =>
    obtain ⟨made, hmade, hlive⟩ := step_makes h step
    obtain ⟨made', hmade', hlive'⟩ := ih (hmade.mode.trans h)
    refine ⟨made ++ made', hmade.trans hmade', ?_⟩
    rw [List.map_append, hlive, hlive']
    exact (compared_cons step rest _ _).symm

end Token

/-- Comparisons of images that are long enough read nothing outside of them, and each tells of exactly
the fields whose numbers differ, in the order of the layout. As many are counted as tell of anything, and
the first of these are reported, up to the limit. While a log is replayed, each call that compares and
succeeds makes one comparison, with the payload of the snapshot that it reads, and whatever the log holds,
both images are long enough. -/
theorem comparisons_exact {layout : Guest.RegisterLayout}
    (hwidth : ∀ field ∈ layout.fields, field.width ≤ 8) :
    (∀ (limit : UInt64) (comparisons : List Comparison) results warnings v,
      (∀ c ∈ comparisons,
        layout.minLength ≤ c.live.length ∧ layout.minLength ≤ c.recorded.length) →
      (Verifier.mk layout limit 0).compareAll comparisons = (results, warnings, v) →
      List.Forall₂ (fun c mismatches => c.InRange layout ∧
        List.Forall₂ (fun field m => field.Differs c.live c.recorded m)
          (layout.differing c.live c.recorded) mismatches) comparisons results ∧
      v.diverged = results.countP (· ≠ []) ∧
      warnings = Verifier.reports limit.toNat comparisons results) ∧
    ∀ (source : Source) (config : Config) (steps : List Step) outcomes t,
      ({ session := (Session.replaying source config).withLayout layout } : Token).run steps =
        (outcomes, t) →
      ∃ made : List Comparison,
        made.map (·.live) = compared steps outcomes ∧
        Recalls source.rest made t.session.unread ∧
        (∀ c ∈ made, layout.minLength ≤ c.live.length ∧ layout.minLength ≤ c.recorded.length) ∧
        ∃ results, (Verifier.mk layout config.reportLimit 0).compareAll made =
          (results, t.session.registerWarnings, t.session.verifier) := by
  constructor
  · intro limit comparisons results warnings v hroom hcompare
    have hresults : results = comparisons.map fun c => layout.diff c.live c.recorded :=
      (congrArg Prod.fst hcompare).symm.trans (Verifier.results_compareAll ..)
    have hdiverged := Verifier.diverged_compareAll ⟨layout, limit, 0⟩ comparisons
    have hwarnings := Verifier.warnings_compareAll ⟨layout, limit, 0⟩ comparisons
    rw [hcompare] at hdiverged hwarnings
    refine ⟨?_, hdiverged.trans (Nat.zero_add _), hwarnings⟩
    rw [hresults, List.forall₂_map_right_iff, List.forall₂_same]
    intro c hc
    have hrange : c.InRange layout := by
      obtain ⟨hlive, hrecorded⟩ := hroom c hc
      exact ⟨Guest.RegisterLayout.fits_iff.mpr hlive, Guest.RegisterLayout.fits_iff.mpr hrecorded⟩
    exact ⟨hrange, Guest.RegisterLayout.diff_differs hwidth hrange.1 hrange.2⟩
  · intro source config steps outcomes t hrun
    obtain ⟨made, hmakes, hlive⟩ := Token.run_makes
      (t := { session := (Session.replaying source config).withLayout layout }) rfl steps
    rw [hrun] at hmakes hlive
    refine ⟨made, hlive, hmakes.recalls, ?_, _, Prod.ext rfl (Prod.ext ?_ hmakes.verifier.symm)⟩
    · intro c hc
      obtain ⟨hin, hin'⟩ := hmakes.inRange c hc
      exact ⟨Guest.RegisterLayout.fits_iff.mp hin, Guest.RegisterLayout.fits_iff.mp hin'⟩
    · exact hmakes.reported.symm

def overlapping : Guest.RegisterLayout := ⟨[⟨"AX", 0, 2⟩, ⟨"RBX", 1, 8⟩]⟩

/-- Images that are the same, and twice such that differ in the byte that is shared. -/
def overlaid : List Comparison :=
  [⟨.main, Bytes.zeros 9, Bytes.zeros 9⟩, ⟨.main, [0, 7, 0, 0, 0, 0, 0, 0, 0], Bytes.zeros 9⟩,
    ⟨⟨2⟩, Bytes.zeros 9, [0, 7, 0, 0, 0, 0, 0, 0, 0]⟩]

/-- A log of one image, and a turn of the main thread that brings another one. -/
def overlaidLog : Bytes := (Entry.snapshot .main 9).encode ++ Bytes.zeros 9

def overlaidTurn : List Step :=
  [.acquire .main .normal fun _ _ => true, .call (.snapshot [0, 7, 0, 0, 0, 0, 0, 0, 0])]

theorem comparisons_exact_overlapping :
    (∀ field ∈ overlapping.fields, field.width ≤ 8) ∧
    (∀ c ∈ overlaid,
      overlapping.minLength ≤ c.live.length ∧ overlapping.minLength ≤ c.recorded.length) ∧
    (∃ results warnings v, (Verifier.mk overlapping 1 0).compareAll overlaid = (results, warnings, v) ∧
      v.diverged = 2 ∧
      warnings = [.register .main ⟨"AX", 0x700, 0⟩, .register .main ⟨"RBX", 7, 0⟩]) ∧
    ∃ c : Comparison, c.live = [0, 7, 0, 0, 0, 0, 0, 0, 0] ∧ Recalls overlaidLog [c] [] := by
  have hwidth : ∀ field ∈ overlapping.fields, field.width ≤ 8 := by decide +kernel
  have hroom : ∀ c ∈ overlaid,
      overlapping.minLength ≤ c.live.length ∧ overlapping.minLength ≤ c.recorded.length := by
    decide +kernel
  obtain ⟨hexact, hreplayed⟩ := comparisons_exact hwidth
  obtain ⟨_, hdiverged, hwarnings⟩ := hexact 1 overlaid _ _ _ hroom rfl
  refine ⟨hwidth, hroom, ⟨_, _, _, rfl, hdiverged.trans ?_, hwarnings.trans ?_⟩, ?_⟩
  · decide +kernel
  · decide +kernel
  · let t : Token := { session := (Session.replaying (.ofBytes overlaidLog) {}).withLayout overlapping }
    obtain ⟨made, hlive, hrecalls, _⟩ :=
      hreplayed (.ofBytes overlaidLog) {} overlaidTurn (t.run overlaidTurn).1 (t.run overlaidTurn).2 rfl
    have hcompared : compared overlaidTurn (t.run overlaidTurn).1 = [[0, 7, 0, 0, 0, 0, 0, 0, 0]] := by
      decide +kernel
    have hunread : (t.run overlaidTurn).2.session.unread = [] := by decide +kernel
    rw [hcompared] at hlive
    rw [hunread] at hrecalls
    obtain ⟨c, rfl, hc⟩ := List.map_eq_singleton_iff.mp hlive
    exact ⟨c, hc, hrecalls⟩

end Retrace
