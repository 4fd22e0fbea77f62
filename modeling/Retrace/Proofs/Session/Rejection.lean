import Retrace.Proofs.Guest.Ranges
import Retrace.Proofs.Session.Departure
import Retrace.Proofs.Session.FaithfulReplay

namespace Retrace

open Log

/-- The entry that a refused call leaves in the log. The registers behind a system call, the values of a
layout and the memory of a stack are looked at only when the entry was logged. -/
def Call.remnant? (running : ThreadId) : Call → SessionError → Option Entry
  | .syscallArgs thread sysno _, .stateTooShort .. => some (.syscallArgs thread sysno)
  | .initMemLayout vstart stackTop, .misaligned .. => some ⟨running, .initMemLayout vstart stackTop⟩
  | .initClientStack _ image _, .guestMemory _ size =>
    some ⟨running, .initClientStack (UInt32.ofNat size) image.auxv⟩
  | _, _ => none

namespace Session

theorem records_iff {s : Session} : s.Records ↔ s.mode = .record := by
  constructor
  · exact Records.mode_eq
  · intro h
    rw [mode] at h
    cases hchannel : s.channel with
    | record writer => exact ⟨writer, hchannel⟩
    | inactive =>
      rw [hchannel] at h
      cases h
    | replay reader =>
      rw [hchannel] at h
      cases h

theorem Turns.records {s s' : Session} (h : s.Turns s') (hs : s.Records) : s'.Records := by
  obtain ⟨channel, _, _, hmode, _, rfl⟩ := h
  exact records_iff.mpr (hmode.trans hs.mode_eq)

/-- The session is as it was, or there is one entry more in its log. -/
def Leaves (s : Session) (remnant? : Option Entry) (s' : Session) : Prop :=
  match remnant? with
  | none => s' = s
  | some entry => ∃ p : Passage, p.logged = (entry, []) ∧ s.Writes [p] s'

section rejected

variable {s s' : Session} {e : SessionError}

theorem process_rejected (h : s.Records) (hlog : ∀ reason, e ≠ .log reason) {template : Entry}
    (herror : s.process template = (.error e, s')) : e = .closed ∧ s.isClosed ∧ s' = s := by
  obtain ⟨w, hs⟩ := h
  rw [process] at herror
  split at herror
  · rename_i hclosed
    cases herror
    exact ⟨rfl, hclosed, rfl⟩
  · rw [hs, Channel.process] at herror
    dsimp only at herror
    split at herror
    · cases herror
    · cases herror
      exact (hlog _ rfl).elim

theorem processData_rejected (h : s.Records) (hlog : ∀ reason, e ≠ .log reason) {template : Entry}
    {buffer buffer' : Bytes} (herror : s.processData template buffer = (.error e, buffer', s')) :
    e = .closed ∧ s.isClosed ∧ buffer' = buffer ∧ s' = s := by
  obtain ⟨w, hs⟩ := h
  rw [processData] at herror
  split at herror
  · rename_i hclosed
    cases herror
    exact ⟨rfl, hclosed, rfl, rfl⟩
  · rw [hs, Channel.processData] at herror
    dsimp only at herror
    split at herror
    · cases herror
    · cases herror
      exact (hlog _ rfl).elim

theorem open_of_process {template entry : Entry} (hok : s.process template = (.ok entry, s')) :
    ¬s'.isClosed := by
  rw [process] at hok
  split at hok
  · cases hok
  · rename_i hopen
    obtain ⟨_, rfl⟩ := Prod.mk.inj hok
    exact hopen

theorem open_of_processData {template entry : Entry} {buffer buffer' : Bytes}
    (hok : s.processData template buffer = (.ok entry, buffer', s')) : ¬s'.isClosed := by
  rw [processData] at hok
  split at hok
  · cases hok
  · rename_i hopen
    obtain ⟨_, hrest⟩ := Prod.mk.inj hok
    obtain ⟨_, rfl⟩ := Prod.mk.inj hrest
    exact hopen

theorem clientCmdline_rejected (h : s.Records) (hlog : ∀ reason, e ≠ .log reason)
    {live : Guest.CommandLine} (herror : s.clientCmdline live = (.error e, s')) : s' = s := by
  obtain ⟨w, hs⟩ := h
  rw [clientCmdline, hs] at herror
  dsimp only at herror
  split at herror
  · cases herror
    rfl
  · split at herror
    · cases herror
      rfl
    · split at herror
      · cases herror
      · cases herror
        exact (hlog _ rfl).elim

theorem threadCreate_rejected (h : s.Records) (hlog : ∀ reason, e ≠ .log reason)
    {parent child : ThreadId} {kernel : KernelTid}
    (herror : s.threadCreate parent child kernel = (.error e, s')) : s' = s := by
  rw [threadCreate, h.isActive, if_neg Bool.false_ne_true] at herror
  split at herror
  · cases herror
    rfl
  · split at herror <;> rename_i hprocess
    · cases herror
      exact (process_rejected h hlog hprocess).2.2
    · obtain ⟨_, p, _, hwrites⟩ := process_writes h hprocess
      rw [hwrites.records.mode_eq] at herror
      cases herror

theorem snapshot_rejected (h : s.Records) (hlog : ∀ reason, e ≠ .log reason) {live : Bytes}
    (herror : s.snapshot live = (.error e, s')) :
    s' = s ∧ (e = .closed ∧ s.isClosed ∨ ∃ len needed, e = .stateTooShort len needed) := by
  rw [snapshot, h.isActive, h.isReplay, if_neg Bool.false_ne_true, if_neg Bool.false_ne_true]
    at herror
  split at herror
  · rename_i hclosed
    cases herror
    exact ⟨rfl, .inl ⟨rfl, hclosed⟩⟩
  · split at herror <;> rename_i hlength
    · cases herror
      rw [Verifier.checkLength] at hlength
      split at hlength
      · cases hlength
        exact ⟨rfl, .inr ⟨_, _, rfl⟩⟩
      · cases hlength
    · dsimp only at herror
      split at herror <;> rename_i hprocess
      · cases herror
        obtain ⟨hreason, hclosed, _, hsame⟩ := processData_rejected h hlog hprocess
        exact ⟨hsame, .inl ⟨hreason, hclosed⟩⟩
      · cases herror

theorem syscallArgs_rejected (h : s.Records) (hlog : ∀ reason, e ≠ .log reason) {thread : ThreadId}
    {sysno : UInt32} {registers : Bytes}
    (herror : s.syscallArgs thread sysno registers = (.error e, s')) :
    s.Leaves ((Call.syscallArgs thread sysno registers).remnant? s.running e) s' := by
  rw [syscallArgs, h.isActive, if_neg Bool.false_ne_true] at herror
  split at herror <;> rename_i hrunning
  · rw [checkRunning] at hrunning
    split at hrunning
    · cases hrunning
      cases herror
      rfl
    · cases hrunning
  · split at herror <;> rename_i hprocess
    · cases herror
      obtain ⟨rfl, _, rfl⟩ := process_rejected h hlog hprocess
      rfl
    · obtain ⟨_, p, hp, hwrites⟩ := process_writes h hprocess
      obtain ⟨rfl, ⟨_, hclosed⟩ | ⟨len, needed, rfl⟩⟩ :=
        snapshot_rejected hwrites.records hlog herror
      · exact absurd hclosed (open_of_process hprocess)
      · exact ⟨p, hp, hwrites⟩

theorem syscallRet_rejected (h : s.Records) (hlog : ∀ reason, e ≠ .log reason) {value value' : UInt64}
    (herror : s.syscallRet value = (.error e, value', s')) : value' = value ∧ s' = s := by
  rw [syscallRet, h.isActive, if_neg Bool.false_ne_true] at herror
  split at herror <;> rename_i hprocess
  · cases herror
    exact ⟨rfl, (process_rejected h hlog hprocess).2.2⟩
  all_goals cases herror

theorem processRegions_rejected (h : s.Records) (hlog : ∀ reason, e ≠ .log reason)
    {regions regions' : List Guest.Memory}
    (herror : s.processRegions regions = (.error e, regions', s')) :
    s.isClosed ∧ regions' = regions ∧ s' = s := by
  induction regions generalizing s regions' with
  | nil => cases herror
  | cons region rest ih =>
    rw [processRegions] at herror
    split at herror <;> rename_i hprocess
    · cases herror
      obtain ⟨_, hclosed, rfl, rfl⟩ := processData_rejected h hlog hprocess
      exact ⟨hclosed, rfl, rfl⟩
    · rename_i s₁
      obtain ⟨_, _, hwrites⟩ := processData_writes h hprocess
      rcases hrest : s₁.processRegions rest with ⟨result, rest', s₂⟩
      rw [hrest] at herror
      cases herror
      obtain ⟨hclosed, _⟩ := ih hwrites.records hrest
      exact absurd hclosed (open_of_processData hprocess)

theorem dispatchCounter_rejected (h : s.Records) (hlog : ∀ reason, e ≠ .log reason) {counter : UInt64}
    {before : Bool} (herror : s.dispatchCounter counter before = (.error e, s')) : s' = s := by
  rw [dispatchCounter, h.isActive, if_neg Bool.false_ne_true] at herror
  split at herror <;> rename_i hprocess
  · cases herror
    exact (process_rejected h hlog hprocess).2.2
  all_goals cases herror

theorem misaligned_of_checkLayout {vstart stackTop : UInt64}
    (h : checkLayout vstart stackTop = .error e) : ∃ value addr, e = .misaligned value addr := by
  rw [checkLayout] at h
  split at h
  · cases h
    exact ⟨_, _, rfl⟩
  · split at h
    · cases h
      exact ⟨_, _, rfl⟩
    · cases h

theorem initMemLayout_rejected (h : s.Records) (hlog : ∀ reason, e ≠ .log reason)
    {vstart stackTop vstart' stackTop' : UInt64}
    (herror : s.initMemLayout vstart stackTop = (.error e, vstart', stackTop', s')) :
    vstart' = vstart ∧ stackTop' = stackTop ∧
      s.Leaves ((Call.initMemLayout vstart stackTop).remnant? s.running e) s' := by
  rw [initMemLayout, h.isActive, if_neg Bool.false_ne_true] at herror
  split at herror <;> rename_i hprocess
  · cases herror
    obtain ⟨rfl, _, rfl⟩ := process_rejected h hlog hprocess
    exact ⟨rfl, rfl, rfl⟩
  · obtain ⟨hentry, p, hp, hwrites⟩ := process_writes h hprocess
    cases hentry
    split at herror <;> rename_i hlayout
    · cases herror
      obtain ⟨value, addr, rfl⟩ := misaligned_of_checkLayout hlayout
      exact ⟨rfl, rfl, p, hp, hwrites⟩
    · cases herror
  · cases herror

theorem processStack_rejected (h : s.Records) (hlog : ∀ reason, e ≠ .log reason) {addr : UInt64}
    {size : UInt32} {memory memory' : Guest.Memory}
    (herror : s.processStack addr size memory = (.error e, memory', s')) :
    memory' = memory ∧ s' = s ∧ (s.isClosed ∨ e = .guestMemory addr size.toNat) := by
  rw [processStack] at herror
  split at herror <;> rename_i hread
  · cases herror
    exact ⟨rfl, rfl, .inr rfl⟩
  · split at herror <;> rename_i hprocess
    · cases herror
      obtain ⟨_, hclosed, rfl, rfl⟩ := processData_rejected h hlog hprocess
      exact ⟨Guest.Memory.write_of_read? hread, rfl, .inl hclosed⟩
    · cases herror

theorem initClientStack_rejected (h : s.Records) (hlog : ∀ reason, e ≠ .log reason)
    {stackTop : UInt64} {image image' : Guest.StackImage} {memory memory' : Guest.Memory}
    (herror : s.initClientStack stackTop image memory = (.error e, image', memory', s')) :
    image' = image ∧ memory' = memory ∧
      s.Leaves ((Call.initClientStack stackTop image memory).remnant? s.running e) s' := by
  rw [initClientStack, h.isActive, if_neg Bool.false_ne_true, h.isRecord] at herror
  simp only [↓reduceIte] at herror
  split at herror
  · cases herror
    exact ⟨rfl, rfl, rfl⟩
  · rename_i size _
    split at herror
    · cases herror
      exact ⟨rfl, rfl, rfl⟩
    · split at herror <;> rename_i hprocess
      · cases herror
        obtain ⟨rfl, _, rfl⟩ := process_rejected h hlog hprocess
        exact ⟨rfl, rfl, rfl⟩
      · rename_i s₁
        obtain ⟨hentry, p, hp, hwrites⟩ := process_writes h hprocess
        cases hentry
        simp only [hwrites.records.isReplay, Bool.false_eq_true, ↓reduceIte] at herror
        rcases hstack : s₁.processStack image.initialSp size memory with ⟨result, memory₁, s₂⟩
        rw [hstack] at herror
        cases herror
        obtain ⟨rfl, rfl, hclosed | rfl⟩ := processStack_rejected hwrites.records hlog hstack
        · exact absurd hclosed (open_of_process hprocess)
        · refine ⟨rfl, rfl, p, ?_, hwrites⟩
          rw [hp, UInt32.ofNat_toNat]
      · cases herror

theorem timestamp_rejected (h : s.Records) (hlog : ∀ reason, e ≠ .log reason) {counter : UInt64}
    (herror : s.timestamp counter = (.error e, s')) : s' = s := by
  rw [timestamp] at herror
  generalize (if s.readsCounter then counter else 0) = live at herror
  rw [h.isActive, if_neg Bool.false_ne_true] at herror
  split at herror <;> rename_i hprocess
  · cases herror
    exact (process_rejected h hlog hprocess).2.2
  all_goals cases herror

theorem registerProbe_rejected {slot : ThreadId} {probe : ExitProbe}
    (herror : s.registerProbe slot probe = (.error e, s')) : s' = s := by
  rw [registerProbe] at herror
  split at herror
  · cases herror
  · cases herror
    rfl

theorem error_of_map {ε α β : Type} {f : α → β} {result : Except ε α} {reason : ε}
    (h : result.map f = .error reason) : result = .error reason := by
  cases result with
  | error =>
    cases h
    rfl
  | ok => cases h

/-- A call that is refused for another reason than the log gives back what it was brought, and leaves
the session as it was but for its remnant. -/
theorem perform_rejected (h : s.Records) (hlog : ∀ reason, e ≠ .log reason) {call : Call}
    (hrejected : (s.perform call).1.result = .error e) :
    (s.perform call).1.call = call ∧
      s.Leaves (call.remnant? s.running e) (s.perform call).2 := by
  cases call with
  | clientCmdline live =>
    exact ⟨rfl, clientCmdline_rejected h hlog (Prod.ext (error_of_map hrejected) rfl)⟩
  | threadCreate parent child kernel =>
    exact ⟨rfl, threadCreate_rejected h hlog (Prod.ext (error_of_map hrejected) rfl)⟩
  | syscallArgs thread sysno registers =>
    exact ⟨rfl, syscallArgs_rejected h hlog (Prod.ext (error_of_map hrejected) rfl)⟩
  | syscallRet value =>
    obtain ⟨hvalue, hsame⟩ := syscallRet_rejected h hlog (Prod.ext (error_of_map hrejected) rfl)
    exact ⟨congrArg Call.syscallRet hvalue, hsame⟩
  | syscallMem regions =>
    simp only [perform, syscallMem_of_active h.isActive] at hrejected ⊢
    obtain ⟨_, hregions, hsame⟩ :=
      processRegions_rejected h hlog (Prod.ext (error_of_map hrejected) rfl)
    exact ⟨congrArg Call.syscallMem hregions, hsame⟩
  | dispatchCounter counter before =>
    exact ⟨rfl, dispatchCounter_rejected h hlog (Prod.ext (error_of_map hrejected) rfl)⟩
  | initMemLayout vstart stackTop =>
    obtain ⟨hvstart, htop, hleaves⟩ :=
      initMemLayout_rejected h hlog (Prod.ext (error_of_map hrejected) rfl)
    exact ⟨congrArg₂ Call.initMemLayout hvstart htop, hleaves⟩
  | initClientStack stackTop image memory =>
    obtain ⟨himage, hmemory, hleaves⟩ :=
      initClientStack_rejected h hlog (Prod.ext (error_of_map hrejected) rfl)
    exact ⟨congrArg₂ (Call.initClientStack stackTop) himage hmemory, hleaves⟩
  | initGuestState registers =>
    simp only [perform, initGuestState_of_active h.isActive, true_and] at hrejected ⊢
    exact (snapshot_rejected h hlog (Prod.ext (error_of_map hrejected) rfl)).1
  | snapshot registers =>
    exact ⟨rfl, (snapshot_rejected h hlog (Prod.ext (error_of_map hrejected) rfl)).1⟩
  | timestamp counter =>
    exact ⟨rfl, timestamp_rejected h hlog (Prod.ext (error_of_map hrejected) rfl)⟩
  | registerProbe slot probe =>
    exact ⟨rfl, registerProbe_rejected (Prod.ext (error_of_map hrejected) rfl)⟩
  | close => cases hrejected

end rejected

end Session

namespace Token

theorem step_records {t : Token} (h : t.session.Records) (step : Step) :
    (t.step step).2.session.Records := by
  have hactive : t.session.mode.isActive := by
    rw [h.mode_eq]
    rfl
  cases step with
  | acquire thread callerClass answers =>
    have hattempts := t.acquire_attempts thread callerClass answers
    change (t.acquire thread callerClass answers).2.session.Records
    generalize t.acquire thread callerClass answers = result at hattempts
    obtain ⟨answer, t'⟩ := result
    cases hattempts with
    | refused turns => exact turns.records h
    | waits => exact h
    | starts => exact h
    | granted session _ turns =>
      obtain ⟨identities, warnings, hframe, _⟩ := session.awaitExit_frame answers
      change (session.awaitExit answers).2.Records
      rw [hframe]
      exact turns.records h
  | release tag =>
    change (t.release tag).2.session.Records
    rw [release]
    apply giveUp_session Session.Records h
    intro holder
    exact (t.session.release_turns holder tag).records h
  | exitThread =>
    have hexits (holder : ThreadId) : (t.session.exitThread holder).2.Records := by
      rcases Session.exitThread_cases hactive holder with ⟨e, s', hexit, hends⟩ | ⟨s', hends, hexit⟩
      · rw [hexit]
        exact hends.records h
      · rw [hexit]
        exact hends.records h
    exact giveUp_session Session.Records h hexits
  | drop =>
    change t.drop.2.session.Records
    rw [drop]
    exact giveUp_session Session.Records h fun _ => h
  | call call =>
    exact Session.records_iff.mpr ((t.session.perform_stays call).mode.trans h.mode_eq)

theorem run_records {t : Token} (h : t.session.Records) (steps : List Step) :
    (t.run steps).2.session.Records := by
  induction steps generalizing t with
  | nil => exact h
  | cons step rest ih => exact ih (step_records h step)

/-- A call that a recording session refuses for another reason than its log gives back what it was
brought and leaves the session as it was, so that nothing of it is in the log. Only if the registers of a
system call are too short, a layout is misaligned or the memory of a stack cannot be read, the entry that
was logged before stays behind, and no more than that. -/
theorem rejected_unlogged_unless_late {sink : Sink} {config : Config} {layout : Guest.RegisterLayout}
    {steps : List Step} {outcomes : List Outcome} {t : Token} {call : Call} {reply : Reply}
    {s' : Session} {e : SessionError}
    (hrun : (recording sink config layout).run steps = (outcomes, t))
    (hperform : t.session.perform call = (reply, s')) (hrejected : reply.result = .error e)
    (hlog : ∀ reason, e ≠ .log reason) :
    reply.call = call ∧
      match call.remnant? t.session.running e with
      | none => s' = t.session
      | some entry => ∃ p : Passage, p.logged = (entry, []) ∧ t.session.Writes [p] s' := by
  have hrecords : ((recording sink config layout).run steps).2.session.Records :=
    run_records ⟨_, rfl⟩ steps
  rw [hrun] at hrecords
  have hresult : (t.session.perform call).1.result = .error e := by
    rw [hperform]
    exact hrejected
  have hleaves := Session.perform_rejected hrecords hlog hresult
  rw [hperform] at hleaves
  exact hleaves

def firstTurn : Token := ((recording {} {} .x86).run [.acquire .main .normal fun _ _ => true]).2

/-- Another thread than the one that runs makes a system call, which leaves nothing in the log, and the
main thread makes one without registers, which leaves its number there. -/
theorem rejected_unlogged_unless_late_registers :
    (firstTurn.session.perform (.syscallArgs ⟨2⟩ 4 [])).2 = firstTurn.session ∧
      ∃ p : Passage, p.logged = (.syscallArgs .main 4, []) ∧
        firstTurn.session.Writes [p] (firstTurn.session.perform (.syscallArgs .main 4 [])).2 := by
  have hrun : (recording {} {} .x86).run [.acquire .main .normal fun _ _ => true] =
      (((recording {} {} .x86).run [.acquire .main .normal fun _ _ => true]).1, firstTurn) := rfl
  have hother : (firstTurn.session.perform (.syscallArgs ⟨2⟩ 4 [])).1.result =
      .error (.notRunning ⟨2⟩ .main) := by decide +kernel
  have hshort : (firstTurn.session.perform (.syscallArgs .main 4 [])).1.result =
      .error (.stateTooShort 0 48) := by decide +kernel
  have hperform (call : Call) : firstTurn.session.perform call =
      ((firstTurn.session.perform call).1, (firstTurn.session.perform call).2) := rfl
  exact ⟨(rejected_unlogged_unless_late hrun (hperform _) hother nofun).2,
    (rejected_unlogged_unless_late hrun (hperform _) hshort nofun).2⟩

/-- Each of three calls is refused, for its layout, its registers and its memory, and has left an entry in
the log. -/
theorem rejected_but_logged :
    let layout := firstTurn.session.perform (.initMemLayout 16 0xBFFFFFFF)
    let registers := firstTurn.session.perform (.syscallArgs .main 4 [])
    let stack := firstTurn.session.perform (.initClientStack 4096 ⟨4064, 0, 0, 0⟩ ⟨0, []⟩)
    firstTurn.session.held = [] ∧
    layout.1.result = .error (.misaligned .vstart 16) ∧
    layout.2.held = Entry.encode ⟨.main, .initMemLayout 16 0xBFFFFFFF⟩ ∧
    registers.1.result = .error (.stateTooShort 0 48) ∧
    registers.2.held = Entry.encode (.syscallArgs .main 4) ∧
    stack.1.result = .error (.guestMemory 4064 32) ∧
    stack.2.held = Entry.encode ⟨.main, .initClientStack 32 0⟩ := by
  decide +kernel

end Token

end Retrace
