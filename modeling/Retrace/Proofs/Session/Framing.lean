import Retrace.Session.Script
import Retrace.Proofs.Session.Occupancy

namespace Retrace

open Log

namespace Channel

theorem mode_process (c : Channel) (template : Entry) : (c.process template).2.mode = c.mode := by
  cases c with
  | inactive => rfl
  | record writer =>
    rw [process]
    split <;> rfl
  | replay reader =>
    rw [process]
    split <;> rfl

theorem mode_processData (c : Channel) (template : Entry) (buffer : Bytes) :
    (c.processData template buffer).2.2.mode = c.mode := by
  cases c with
  | inactive => rfl
  | record writer =>
    rw [processData]
    split <;> rfl
  | replay reader =>
    rw [processData]
    split <;> rfl

end Channel

def Call.registers? : Call → Option Bytes
  | .syscallArgs _ _ registers | .initGuestState registers | .snapshot registers => some registers
  | _ => none

namespace Session

theorem process_channel (s : Session) (template : Entry) :
    ∃ channel, channel.mode = s.channel.mode ∧ (s.process template).2 = { s with channel } := by
  rw [process]
  split
  · exact ⟨s.channel, rfl, rfl⟩
  · exact ⟨_, s.channel.mode_process template, rfl⟩

theorem processData_channel (s : Session) (template : Entry) (buffer : Bytes) :
    ∃ channel, channel.mode = s.channel.mode ∧
      (s.processData template buffer).2.2 = { s with channel } := by
  rw [processData]
  split
  · exact ⟨s.channel, rfl, rfl⟩
  · exact ⟨_, s.channel.mode_processData template buffer, rfl⟩

theorem clientCmdline_channel (s : Session) (live : Guest.CommandLine) :
    ∃ channel, channel.mode = s.channel.mode ∧ (s.clientCmdline live).2 = { s with channel } := by
  rw [clientCmdline]
  split
  · exact ⟨s.channel, rfl, rfl⟩
  · split <;> rename_i hchannel
    · exact ⟨s.channel, rfl, rfl⟩
    · dsimp only
      split
      · exact ⟨s.channel, rfl, rfl⟩
      · split <;> exact ⟨.record _, by rw [hchannel]; rfl, rfl⟩
    · split <;> exact ⟨.replay _, by rw [hchannel]; rfl, rfl⟩

/-- A relation of a session to a later one that holds across whatever is sent through the log. -/
structure Carries (R : Session → Session → Prop) : Prop where
  refl (s : Session) : R s s
  trans {s s' s'' : Session} : R s s' → R s' s'' → R s s''
  process (s : Session) (template : Entry) : R s (s.process template).2
  processData (s : Session) (template : Entry) (buffer : Bytes) :
    R s (s.processData template buffer).2.2
  clientCmdline (s : Session) (live : Guest.CommandLine) : R s (s.clientCmdline live).2

theorem carries_of_channel {R : Session → Session → Prop} (refl : ∀ s, R s s)
    (trans : ∀ {s s' s''}, R s s' → R s' s'' → R s s'')
    (hchannel : ∀ (s : Session) (channel : Channel), channel.mode = s.channel.mode →
      R s { s with channel }) : Carries R where
  refl := refl
  trans := trans
  process s template := by
    obtain ⟨channel, hmode, hprocess⟩ := s.process_channel template
    rw [hprocess]
    exact hchannel s channel hmode
  processData s template buffer := by
    obtain ⟨channel, hmode, hprocess⟩ := s.processData_channel template buffer
    rw [hprocess]
    exact hchannel s channel hmode
  clientCmdline s live := by
    obtain ⟨channel, hmode, hcmdline⟩ := s.clientCmdline_channel live
    rw [hcmdline]
    exact hchannel s channel hmode

/-- A view of a session that does not look at its log stays the same. -/
theorem carries_view {α : Type} (view : Session → α)
    (hchannel : ∀ (s : Session) (channel : Channel), view { s with channel } = view s) :
    Carries fun s s' => view s' = view s :=
  carries_of_channel (fun _ => rfl) (fun h h' => h'.trans h) fun s channel _ => hchannel s channel

namespace Carries

variable {R : Session → Session → Prop} (h : Carries R)
include h

theorem threadCreate {child : ThreadId} {kernel : KernelTid}
    (hidentify : ∀ (s : Session) (recorded : KernelTid), R s (s.identify child recorded kernel).2)
    (s : Session) (parent : ThreadId) : R s (s.threadCreate parent child kernel).2 := by
  rw [Session.threadCreate]
  split
  · exact h.refl s
  · split
    · exact h.refl s
    · have hsent := h.process s ⟨s.running, .threadCreate child kernel⟩
      split <;> rename_i hprocess <;> rw [hprocess] at hsent
      · exact hsent
      · split
        · exact h.trans hsent (hidentify _ _)
        · exact hsent

section registers

variable {registers : Bytes} (hcompare : ∀ (s : Session) (recorded : Bytes),
  R s (s.compare registers recorded))
include hcompare

theorem snapshot (s : Session) : R s (s.snapshot registers).2 := by
  rw [Session.snapshot]
  split
  · exact h.refl s
  · split
    · exact h.refl s
    · split
      · exact h.refl s
      · dsimp only
        generalize (if s.mode.isReplay then Verifier.scratch registers.length else registers) = buffer
        have hsent := h.processData s (.snapshot s.running registers.length) buffer
        split <;> rename_i hprocess <;> rw [hprocess] at hsent
        · exact hsent
        · dsimp only
          split
          · exact h.trans hsent (hcompare _ _)
          · exact hsent

theorem syscallArgs (s : Session) (thread : ThreadId) (sysno : UInt32) :
    R s (s.syscallArgs thread sysno registers).2 := by
  rw [Session.syscallArgs]
  split
  · exact h.refl s
  · split
    · exact h.refl s
    · have hsent := h.process s (.syscallArgs thread sysno)
      split <;> rename_i hprocess <;> rw [hprocess] at hsent
      · exact hsent
      · exact h.trans hsent (h.snapshot hcompare _)

theorem initGuestState (s : Session) : R s (s.initGuestState registers).2 := by
  rw [Session.initGuestState]
  split
  · exact h.refl s
  · exact h.snapshot hcompare s

end registers

theorem syscallRet (s : Session) (value : UInt64) : R s (s.syscallRet value).2.2 := by
  rw [Session.syscallRet]
  split
  · exact h.refl s
  · have hsent := h.process s (.syscallRet s.running value)
    split <;> rename_i hprocess <;> rw [hprocess] at hsent <;> exact hsent

theorem processRegions (s : Session) (regions : List Guest.Memory) :
    R s (s.processRegions regions).2.2 := by
  induction regions generalizing s with
  | nil => exact h.refl s
  | cons region rest ih =>
    rw [Session.processRegions]
    have hsent :=
      h.processData s (.data s.running region.bytes.length region.base) region.bytes
    split <;> rename_i hprocess <;> rw [hprocess] at hsent
    · exact hsent
    · exact h.trans hsent (ih _)

theorem syscallMem (s : Session) (regions : List Guest.Memory) :
    R s (s.syscallMem regions).2.2 := by
  rw [Session.syscallMem]
  split
  · exact h.refl s
  · exact h.processRegions s regions

theorem dispatchCounter {counter : UInt64} {before : Bool}
    (hcounter : ∀ (s : Session) (recorded : UInt64), R s (s.checkCounter before counter recorded))
    (s : Session) : R s (s.dispatchCounter counter before).2 := by
  rw [Session.dispatchCounter]
  split
  · exact h.refl s
  · have hsent := h.process s ⟨s.running, .dispatchCounter before counter⟩
    split <;> rename_i hprocess <;> rw [hprocess] at hsent
    · exact hsent
    · exact h.trans hsent (hcounter _ _)
    · exact hsent

theorem initMemLayout (s : Session) (vstart stackTop : UInt64) :
    R s (s.initMemLayout vstart stackTop).2.2.2 := by
  rw [Session.initMemLayout]
  split
  · exact h.refl s
  · have hsent := h.process s ⟨s.running, .initMemLayout vstart stackTop⟩
    split <;> rename_i hprocess <;> rw [hprocess] at hsent
    · exact hsent
    · split <;> exact hsent
    · exact hsent

theorem processStack (s : Session) (addr : UInt64) (size : UInt32) (memory : Guest.Memory) :
    R s (s.processStack addr size memory).2.2 := by
  rw [Session.processStack]
  split
  · exact h.refl s
  · rename_i bytes _
    have hsent := h.processData s (.data s.running size.toNat addr) bytes
    split <;> rename_i hprocess <;> rw [hprocess] at hsent <;> exact hsent

theorem initClientStack (s : Session) (stackTop : UInt64) (image : Guest.StackImage)
    (memory : Guest.Memory) : R s (s.initClientStack stackTop image memory).2.2.2 := by
  rw [Session.initClientStack]
  split
  · exact h.refl s
  · dsimp only
    split
    · exact h.refl s
    · rename_i size _
      split
      · exact h.refl s
      · have hsent := h.process s ⟨s.running, .initClientStack size image.auxv⟩
        split <;> rename_i hprocess <;> rw [hprocess] at hsent
        · exact hsent
        · split
          · exact hsent
          · exact h.trans hsent (h.processStack ..)
        · exact hsent

theorem timestamp (s : Session) (counter : UInt64) : R s (s.timestamp counter).2 := by
  rw [Session.timestamp]
  generalize (if s.readsCounter then counter else 0) = live
  split
  · exact h.refl s
  · have hsent := h.process s ⟨s.running, .timestamp live.toUInt32 (live >>> 32).toUInt32⟩
    split <;> rename_i hprocess <;> rw [hprocess] at hsent <;> exact hsent

/-- Besides the log a call may fill a slot, compare a register image, count a dispatch counter, register a
probe, or close the session. -/
theorem perform (s : Session) (call : Call)
    (hidentify : ∀ parent child kernel, call = .threadCreate parent child kernel →
      ∀ (s : Session) (recorded : KernelTid), R s (s.identify child recorded kernel).2)
    (hcompare : ∀ live, call.registers? = some live →
      ∀ (s : Session) (recorded : Bytes), R s (s.compare live recorded))
    (hcounter : ∀ (s : Session) (before : Bool) (counter recorded : UInt64),
      R s (s.checkCounter before counter recorded))
    (hregister : ∀ slot probe, call = .registerProbe slot probe →
      ∀ s : Session, R s (s.registerProbe slot probe).2)
    (hclose : ∀ s : Session, R s s.close.2) : R s (s.perform call).2 := by
  cases call with
  | clientCmdline live => exact h.clientCmdline s live
  | threadCreate parent child kernel =>
    exact h.threadCreate (hidentify parent child kernel rfl) s parent
  | syscallArgs thread sysno registers => exact h.syscallArgs (hcompare registers rfl) s thread sysno
  | syscallRet value => exact h.syscallRet s value
  | syscallMem regions => exact h.syscallMem s regions
  | dispatchCounter counter before =>
    exact h.dispatchCounter (fun s => hcounter s before counter) s
  | initMemLayout vstart stackTop => exact h.initMemLayout s vstart stackTop
  | initClientStack stackTop image memory => exact h.initClientStack s stackTop image memory
  | initGuestState registers => exact h.initGuestState (hcompare registers rfl) s
  | snapshot registers => exact h.snapshot (hcompare registers rfl) s
  | timestamp counter => exact h.timestamp s counter
  | registerProbe slot probe => exact hregister slot probe rfl s
  | close => exact hclose s

end Carries

/-- A call lets nobody else run, the session goes on as it was set up, and no slot is emptied. -/
structure Stays (s s' : Session) : Prop where
  config : s'.config = s.config
  mode : s'.mode = s.mode
  running : s'.running = s.running
  schedule : s'.schedule = s.schedule
  occupied : ∀ slot, s.identities.occupies slot → s'.identities.occupies slot

theorem Stays.refl (s : Session) : s.Stays s := ⟨rfl, rfl, rfl, rfl, fun _ => id⟩

theorem Stays.trans {s s' s'' : Session} (h : s.Stays s') (h' : s'.Stays s'') : s.Stays s'' :=
  ⟨h'.config.trans h.config, h'.mode.trans h.mode, h'.running.trans h.running,
    h'.schedule.trans h.schedule, fun slot hslot => h'.occupied slot (h.occupied slot hslot)⟩

theorem carries_stays : Carries Stays :=
  carries_of_channel Stays.refl Stays.trans fun _ _ hmode => ⟨rfl, hmode, rfl, rfl, fun _ => id⟩

theorem process_stays (s : Session) (template : Entry) : s.Stays (s.process template).2 :=
  carries_stays.process s template

theorem identify_stays (s : Session) (child : ThreadId) (recorded kernel : KernelTid) :
    s.Stays (s.identify child recorded kernel).2 := by
  rw [identify]
  split <;> rename_i hcreate
  · exact ⟨rfl, rfl, rfl, rfl, fun slot => IdentityTable.occupies_create hcreate slot⟩
  · exact .refl s

theorem compare_stays (s : Session) (live recorded : Bytes) : s.Stays (s.compare live recorded) :=
  ⟨rfl, rfl, rfl, rfl, fun _ => id⟩

theorem checkCounter_stays (s : Session) (before : Bool) (counter recorded : UInt64) :
    s.Stays (s.checkCounter before counter recorded) := by
  rw [checkCounter]
  split
  · exact .refl s
  · exact ⟨rfl, rfl, rfl, rfl, fun _ => id⟩

theorem registerProbe_stays (s : Session) (slot : ThreadId) (probe : ExitProbe) :
    s.Stays (s.registerProbe slot probe).2 := by
  rw [registerProbe]
  split <;> rename_i hregister
  · refine ⟨rfl, rfl, rfl, rfl, fun slot hslot => ?_⟩
    exact (IdentityTable.occupies_registerProbe hregister slot).trans hslot
  · exact .refl s

theorem finish_stays (s : Session) : s.Stays s.finish := by
  rw [finish]
  split <;> rename_i hchannel
  · split <;> exact ⟨rfl, (by rw [mode, mode, hchannel]; rfl), rfl, rfl, fun _ => id⟩
  · exact .refl s

theorem close_stays (s : Session) : s.Stays s.close.2 := by
  rw [close]
  split
  · exact .refl s
  · exact ⟨s.finish_stays.config, s.finish_stays.mode, s.finish_stays.running,
      s.finish_stays.schedule, s.finish_stays.occupied⟩

theorem perform_stays (s : Session) (call : Call) : s.Stays (s.perform call).2 :=
  carries_stays.perform s call (fun _ child kernel _ s recorded => s.identify_stays child recorded kernel)
    (fun live _ s recorded => s.compare_stays live recorded) checkCounter_stays
    (fun slot probe _ s => s.registerProbe_stays slot probe) close_stays

def relog (s : Session) (channel : Channel) : Session := { s with channel }

theorem awaitExit_relog (s : Session) (channel : Channel) (answers : ExitProbe → Nat → Bool) :
    (s.relog channel).awaitExit answers =
      ((s.awaitExit answers).1, (s.awaitExit answers).2.relog channel) := by
  have hschedule : (s.relog channel).schedule = s.schedule := rfl
  have hidentities : (s.relog channel).identities = s.identities := rfl
  have hconfig : (s.relog channel).config = s.config := rfl
  rw [awaitExit, awaitExit, hschedule]
  rcases s.schedule.takeExiting with ⟨exiting, schedule⟩
  cases exiting with
  | none => rfl
  | some thread =>
    dsimp only
    split
    · rfl
    · rw [hidentities]
      rcases s.identities.takeProbe thread with ⟨probe, identities⟩
      cases probe with
      | none => rfl
      | some probe =>
        dsimp only
        rw [hconfig]
        split
        · rfl
        · rfl

end Session

/-- What holds of a session, and after a turn of whoever holds the token, holds when the token was
given up. -/
theorem Token.giveUp_session {t : Token} (P : Session → Prop) (h : P t.session)
    {finish : Session → ThreadId → Except SessionError Unit × Session}
    (hfinish : ∀ holder, P (finish t.session holder).2) : P (t.giveUp finish).2.session := by
  rw [giveUp]
  cases t.holder with
  | none => exact h
  | some holder => exact hfinish holder

end Retrace
