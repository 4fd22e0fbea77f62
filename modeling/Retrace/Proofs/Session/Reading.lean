import Mathlib.Data.List.Forall2
import Retrace.Proofs.Log.Resolving
import Retrace.Session.Script

namespace Retrace

open Log

/-- Bytes that are passages, one behind the other, of some entries. -/
def Log.Spells (read : Bytes) (entries : List Entry) : Prop :=
  ∃ passages : List Passage, Passage.join passages = read ∧ passages.map (·.entry) = entries

theorem Log.spells_nil : Spells [] [] := ⟨[], rfl, rfl⟩

theorem Log.Passage.spells (p : Passage) : Spells p.bytes [p.entry] :=
  ⟨[p], List.append_nil _, rfl⟩

theorem Log.Spells.append {read read' : Bytes} {entries entries' : List Entry}
    (h : Spells read entries) (h' : Spells read' entries') :
    Spells (read ++ read') (entries ++ entries') := by
  obtain ⟨passages, rfl, rfl⟩ := h
  obtain ⟨passages', rfl, rfl⟩ := h'
  exact ⟨passages ++ passages', Passage.join_append _ _, List.map_append⟩

namespace Channel

def Reads (c : Channel) (read : Bytes) (count : Nat) (c' : Channel) : Prop :=
  ∃ r r', c = .replay r ∧ c' = .replay r' ∧ r.Reads read count r'

theorem Reads.trans {c c' c'' : Channel} {read read' : Bytes} {count count' : Nat}
    (h : c.Reads read count c') (h' : c'.Reads read' count' c'') :
    c.Reads (read ++ read') (count + count') c'' := by
  obtain ⟨r, r', hc, hc', hr⟩ := h
  obtain ⟨_, r'', hmid, hc'', hr'⟩ := h'
  cases hc'.symm.trans hmid
  exact ⟨r, r'', hc, hc'', hr.trans hr'⟩

end Channel

namespace Session

def Replays (s : Session) : Prop :=
  ∃ rest offset resolved, s.channel = .replay (.plain rest offset resolved)

/-- A call read on in the log, and let nobody else run. -/
structure Reads (s : Session) (read : Bytes) (count : Nat) (s' : Session) : Prop where
  channel : s.channel.Reads read count s'.channel
  running : s'.running = s.running
  schedule : s'.schedule = s.schedule

theorem Replays.reads_nil {s s' : Session} (h : s.Replays) (hchannel : s'.channel = s.channel)
    (hrunning : s'.running = s.running) (hschedule : s'.schedule = s.schedule) :
    s.Reads [] 0 s' := by
  obtain ⟨rest, offset, resolved, hs⟩ := h
  exact ⟨⟨_, _, hs, hchannel.trans hs, .refl _ _ _⟩, hrunning, hschedule⟩

theorem Replays.reads_refl {s : Session} (h : s.Replays) : s.Reads [] 0 s :=
  h.reads_nil rfl rfl rfl

theorem Reads.replays {s s' : Session} {read : Bytes} {count : Nat} (h : s.Reads read count s') :
    s'.Replays := by
  obtain ⟨r, r', _, hs', rest, offset, resolved, _, rfl⟩ := h.channel
  exact ⟨_, _, _, hs'⟩

theorem Reads.trans {s s' s'' : Session} {read read' : Bytes} {count count' : Nat}
    (h : s.Reads read count s') (h' : s'.Reads read' count' s'') :
    s.Reads (read ++ read') (count + count') s'' :=
  ⟨h.channel.trans h'.channel, h'.running.trans h.running, h'.schedule.trans h.schedule⟩

theorem reads_of_reader {s : Session} {r r' : Reader} {read : Bytes} {count : Nat}
    (hs : s.channel = .replay r) (h : r.Reads read count r') :
    s.Reads read count { s with channel := .replay r' } :=
  ⟨⟨r, r', hs, rfl, h⟩, rfl, rfl⟩

theorem Reads.congr {s s' s'' : Session} {read : Bytes} {count : Nat} (h : s.Reads read count s')
    (hchannel : s''.channel = s'.channel) (hrunning : s''.running = s'.running)
    (hschedule : s''.schedule = s'.schedule) : s.Reads read count s'' :=
  ⟨hchannel ▸ h.channel, hrunning.trans h.running, hschedule.trans h.schedule⟩

theorem Reads.compare {s s' : Session} {read : Bytes} {count : Nat} (h : s.Reads read count s')
    (live recorded : Bytes) : s.Reads read count (s'.compare live recorded) := by
  apply h.congr <;> rfl

theorem Reads.checkCounter {s s' : Session} {read : Bytes} {count : Nat}
    (h : s.Reads read count s') (before : Bool) (counter recorded : UInt64) :
    s.Reads read count (s'.checkCounter before counter recorded) := by
  rw [Session.checkCounter]
  split
  · exact h
  · apply h.congr <;> rfl

theorem Replays.mode_eq {s : Session} (h : s.Replays) : s.mode = .replay := by
  obtain ⟨rest, offset, resolved, hs⟩ := h
  rw [mode, hs]
  rfl

theorem Replays.isActive {s : Session} (h : s.Replays) : (!s.mode.isActive) = false := by
  rw [h.mode_eq]
  rfl

theorem process_reads {s : Session} (h : s.Replays) (template : Entry) :
    ∃ read count, s.Reads read count (s.process template).2 ∧
      ∀ e, (s.process template).1 = .ok e →
        ∃ p : Passage, read = p.bytes ∧ count = 1 ∧ template.settle p.entry = .ok e := by
  by_cases hclosed : s.isClosed
  · rw [process, if_pos hclosed]
    exact ⟨[], 0, h.reads_refl, fun _ he => nomatch he⟩
  · obtain ⟨rest, offset, resolved, hs⟩ := h
    rw [process, if_neg hclosed, hs, Channel.process]
    dsimp only
    split <;> rename_i hresolve
    · obtain ⟨p, _, hreads, hsettle⟩ := Reader.resolve_ok hresolve
      refine ⟨p.bytes, 1, reads_of_reader hs hreads, ?_⟩
      rintro e ⟨⟩
      exact ⟨p, rfl, rfl, hsettle⟩
    · obtain ⟨read, count, hreads⟩ := Reader.resolve_reads rest offset resolved template
      rw [hresolve] at hreads
      exact ⟨read, count, reads_of_reader hs hreads, fun _ he => nomatch he⟩

theorem processData_reads {s : Session} (h : s.Replays) (template : Entry) (buffer : Bytes) :
    ∃ read count, s.Reads read count (s.processData template buffer).2.2 ∧
      ∀ e, (s.processData template buffer).1 = .ok e →
        ∃ p : Passage, read = p.bytes ∧ count = 1 ∧ template.settle p.entry = .ok e ∧
          buffer.length = template.payloadLength := by
  by_cases hclosed : s.isClosed
  · rw [processData, if_pos hclosed]
    exact ⟨[], 0, h.reads_refl, fun _ he => nomatch he⟩
  · obtain ⟨rest, offset, resolved, hs⟩ := h
    rw [processData, if_neg hclosed, hs, Channel.processData]
    dsimp only
    split <;> rename_i hresolve
    · obtain ⟨p, _, _, hbuffer, hreads, hsettle⟩ := Reader.resolveData_ok hresolve
      refine ⟨p.bytes, 1, reads_of_reader hs hreads, ?_⟩
      rintro e ⟨⟩
      exact ⟨p, rfl, rfl, hsettle, hbuffer⟩
    · obtain ⟨read, count, hreads⟩ := Reader.resolveData_reads rest offset resolved template buffer
      rw [hresolve] at hreads
      exact ⟨read, count, reads_of_reader hs hreads, fun _ he => nomatch he⟩

end Session

/-- The entries that a call stands for while a thread runs. -/
def Call.StandsFor (running : ThreadId) : Call → List Entry → Prop
  | .clientCmdline _, entries =>
    ∃ len, 0 < len.toNat ∧ len.toNat < cmdlineLimit ∧ entries = [⟨running, .clientCmdline len⟩]
  | .threadCreate parent _ _, entries =>
    ∃ child kernel, entries = [⟨parent, .threadCreate child kernel⟩]
  | .syscallArgs thread sysno registers, entries =>
    ∃ len, len.toNat = registers.length ∧
      entries = [⟨thread, .syscallArgs thread sysno⟩, ⟨thread, .snapshot len⟩]
  | .syscallRet _, entries => ∃ value, entries = [⟨running, .syscallRet value⟩]
  | .syscallMem regions, entries =>
    List.Forall₂ (fun region entry => ∃ len addr, len.toNat = region.bytes.length ∧
      entry = ⟨running, .data len addr⟩) regions entries
  | .dispatchCounter _ before, entries =>
    ∃ counter, entries = [⟨running, .dispatchCounter before counter⟩]
  | .initMemLayout .., entries =>
    ∃ vstart stackTop, Guest.isPageAligned vstart ∧ Guest.isPageAligned (stackTop + 1) ∧
      entries = [⟨running, .initMemLayout vstart stackTop⟩]
  | .initClientStack .., entries =>
    ∃ size auxv len addr, len.toNat = size.toNat ∧
      entries = [⟨running, .initClientStack size auxv⟩, ⟨running, .data len addr⟩]
  | .initGuestState registers, entries | .snapshot registers, entries =>
    ∃ len, len.toNat = registers.length ∧ entries = [⟨running, .snapshot len⟩]
  | .timestamp _, entries => ∃ low high, entries = [⟨running, .timestamp low high⟩]
  | .registerProbe .., entries | .close, entries => entries = []

namespace Session

/-- Whatever a call gives, it reads on in the log; where it succeeds, what it read spells entries that
it stands for. -/
def Accounts (s s' : Session) (succeeds : Bool) (stands : List Entry → Prop) : Prop :=
  ∃ read count, s.Reads read count s' ∧
    (succeeds → ∃ entries, Spells read entries ∧ count = entries.length ∧ stands entries)

theorem Reads.accounts_failed {s s' : Session} {read : Bytes} {count : Nat}
    (h : s.Reads read count s') (stands : List Entry → Prop) : s.Accounts s' false stands :=
  ⟨read, count, h, fun hok => nomatch hok⟩

theorem Replays.accounts_refl {s : Session} (h : s.Replays) {succeeds : Bool}
    {stands : List Entry → Prop} (hstands : succeeds → stands []) :
    s.Accounts s succeeds stands :=
  ⟨[], 0, h.reads_refl, fun hok => ⟨[], spells_nil, rfl, hstands hok⟩⟩

theorem Reads.accounts_passage {s s' : Session} {p : Passage} (h : s.Reads p.bytes 1 s')
    {succeeds : Bool} {stands : List Entry → Prop} (hstands : succeeds → stands [p.entry]) :
    s.Accounts s' succeeds stands :=
  ⟨p.bytes, 1, h, fun hok => ⟨[p.entry], p.spells, rfl, hstands hok⟩⟩

theorem clientCmdline_accounts {s : Session} (h : s.Replays) (live : Guest.CommandLine) :
    s.Accounts (s.clientCmdline live).2 (s.clientCmdline live).1.isOk
      ((Call.clientCmdline live).StandsFor s.running) := by
  by_cases hclosed : s.isClosed
  · rw [clientCmdline, if_pos hclosed]
    exact h.reads_refl.accounts_failed _
  · obtain ⟨rest, offset, resolved, hs⟩ := h
    rw [clientCmdline, if_neg hclosed, hs]
    dsimp only
    split <;> rename_i hresolve
    · obtain ⟨p, rfl, hpos, hlt, hreads, hsettle⟩ := Reader.resolveCmdline_ok hresolve
      apply (reads_of_reader hs hreads).accounts_passage
      intro _
      obtain ⟨_, _, hp, rfl, hbody⟩ := Entry.settle_ok_cases hsettle
      have hlen := p.length_payload
      rw [hp] at hlen ⊢
      cases hbody with
      | clientCmdline _ len =>
        have hlen : p.payload.length = len.toNat := hlen
        exact ⟨len, by omega, by omega, rfl⟩
    · obtain ⟨read, count, hreads⟩ :=
        Reader.resolveCmdline_reads rest offset resolved ⟨s.running, .clientCmdline 0⟩
      rw [hresolve] at hreads
      exact (reads_of_reader hs hreads).accounts_failed _

theorem eq_running_of_checkRunning {s : Session} {caller : ThreadId}
    (h : s.checkRunning caller = .ok ()) : caller = s.running := by
  rw [checkRunning] at h
  split at h
  · cases h
  · exact Decidable.not_not.mp ‹_›

theorem threadCreate_accounts {s : Session} (h : s.Replays) (parent child : ThreadId)
    (kernel : KernelTid) :
    s.Accounts (s.threadCreate parent child kernel).2 (s.threadCreate parent child kernel).1.isOk
      ((Call.threadCreate parent child kernel).StandsFor s.running) := by
  rw [threadCreate, h.isActive, if_neg Bool.false_ne_true]
  split
  · exact h.reads_refl.accounts_failed _
  · rename_i hrunning
    have hrunning := eq_running_of_checkRunning hrunning
    obtain ⟨read, count, hreads, hok⟩ := process_reads h ⟨s.running, .threadCreate child kernel⟩
    split <;> rename_i hprocess <;> rw [hprocess] at hreads hok
    · exact hreads.accounts_failed _
    · rename_i resolved s'
      obtain ⟨p, rfl, rfl, hsettle⟩ := hok resolved rfl
      obtain ⟨_, _, hp, rfl, hbody⟩ := Entry.settle_ok_cases hsettle
      cases hbody with
      | threadCreate _ child' _ recorded _ =>
        have hstands : ∀ succeeds : Bool, succeeds →
            (Call.threadCreate parent child kernel).StandsFor s.running [p.entry] := by
          intro _ _
          rw [hp, ← hrunning]
          exact ⟨child', recorded, rfl⟩
        rw [hreads.replays.mode_eq]
        dsimp only
        rw [identify]
        split
        · refine Reads.accounts_passage (hreads.congr ?_ ?_ ?_) (hstands _) <;> rfl
        · exact hreads.accounts_passage (hstands _)

theorem snapshot_accounts {s : Session} (h : s.Replays) (live : Bytes) :
    s.Accounts (s.snapshot live).2 (s.snapshot live).1.isOk
      ((Call.snapshot live).StandsFor s.running) := by
  rw [snapshot]
  split
  · exact h.reads_refl.accounts_failed _
  · rw [h.isActive, if_neg Bool.false_ne_true]
    split
    · exact h.reads_refl.accounts_failed _
    · rw [h.mode_eq]
      obtain ⟨read, count, hreads, hok⟩ :=
        processData_reads h (.snapshot s.running live.length) (Verifier.scratch live.length)
      have hbuffer : (if Mode.replay.isReplay then Verifier.scratch live.length else live) =
          Verifier.scratch live.length := rfl
      simp only [hbuffer]
      split <;> rename_i hprocess <;> rw [hprocess] at hreads hok
      · exact hreads.accounts_failed _
      · obtain ⟨p, rfl, rfl, hsettle, hlen⟩ := hok _ rfl
        rw [Verifier.scratch, Bytes.length_zeros] at hlen
        obtain ⟨_, _, hp, rfl, hbody⟩ := Entry.settle_ok_cases hsettle
        rw [hreads.replays.mode_eq]
        apply Reads.accounts_passage (hreads.compare live _)
        intro _
        rw [hp]
        cases hbody with
        | snapshot => exact ⟨_, hlen.symm, rfl⟩

theorem syscallArgs_accounts {s : Session} (h : s.Replays) (thread : ThreadId) (sysno : UInt32)
    (registers : Bytes) :
    s.Accounts (s.syscallArgs thread sysno registers).2 (s.syscallArgs thread sysno registers).1.isOk
      ((Call.syscallArgs thread sysno registers).StandsFor s.running) := by
  rw [syscallArgs, h.isActive, if_neg Bool.false_ne_true]
  split
  · exact h.reads_refl.accounts_failed _
  · rename_i hrunning
    have hrunning := eq_running_of_checkRunning hrunning
    obtain ⟨read, count, hreads, hok⟩ := process_reads h (.syscallArgs thread sysno)
    split <;> rename_i hprocess <;> rw [hprocess] at hreads hok
    · exact hreads.accounts_failed _
    · obtain ⟨p, rfl, rfl, hsettle⟩ := hok _ rfl
      obtain ⟨_, _, hp, rfl, hbody⟩ := Entry.settle_ok_cases hsettle
      obtain ⟨read, count, hsnapshot, hok⟩ := snapshot_accounts hreads.replays registers
      refine ⟨_, _, hreads.trans hsnapshot, ?_⟩
      intro hsucceeds
      obtain ⟨entries, hspells, rfl, len, hlen, rfl⟩ := hok hsucceeds
      refine ⟨_, p.spells.append hspells, rfl, len, hlen, ?_⟩
      rw [hp, hreads.running, ← hrunning]
      cases hbody with
      | syscallArgs => rfl

theorem syscallRet_accounts {s : Session} (h : s.Replays) (value : UInt64) :
    s.Accounts (s.syscallRet value).2.2 (s.syscallRet value).1.isOk
      ((Call.syscallRet value).StandsFor s.running) := by
  rw [syscallRet, h.isActive, if_neg Bool.false_ne_true]
  obtain ⟨read, count, hreads, hok⟩ := process_reads h (.syscallRet s.running value)
  split <;> rename_i hprocess <;> rw [hprocess] at hreads hok
  · exact hreads.accounts_failed _
  all_goals
    obtain ⟨p, rfl, rfl, hsettle⟩ := hok _ rfl
    obtain ⟨_, _, hp, he, hbody⟩ := Entry.settle_ok_cases hsettle
    apply hreads.accounts_passage
    intro _
    rw [hp]
    cases hbody with
    | syscallRet _ recorded => exact ⟨recorded, rfl⟩

theorem processRegions_accounts {s : Session} (h : s.Replays) (regions : List Guest.Memory) :
    s.Accounts (s.processRegions regions).2.2 (s.processRegions regions).1.isOk
      ((Call.syscallMem regions).StandsFor s.running) := by
  induction regions generalizing s with
  | nil => exact h.accounts_refl fun _ => .nil
  | cons region rest ih =>
    rw [processRegions]
    obtain ⟨read, count, hreads, hok⟩ :=
      processData_reads h (.data s.running region.bytes.length region.base) region.bytes
    split <;> rename_i hprocess <;> rw [hprocess] at hreads hok
    · exact hreads.accounts_failed _
    · obtain ⟨p, rfl, rfl, hsettle, hlen⟩ := hok _ rfl
      obtain ⟨_, _, hp, _, hbody⟩ := Entry.settle_ok_cases hsettle
      obtain ⟨read, count, hrest, hok⟩ := ih hreads.replays
      refine ⟨_, _, hreads.trans hrest, ?_⟩
      intro hsucceeds
      obtain ⟨entries, hspells, rfl, hstands⟩ := hok hsucceeds
      rw [hreads.running] at hstands
      refine ⟨_, p.spells.append hspells, Nat.add_comm _ _, .cons ?_ hstands⟩
      rw [hp]
      cases hbody with
      | data _ _ addr => exact ⟨_, addr, hlen.symm, rfl⟩

theorem dispatchCounter_accounts {s : Session} (h : s.Replays) (counter : UInt64) (before : Bool) :
    s.Accounts (s.dispatchCounter counter before).2 (s.dispatchCounter counter before).1.isOk
      ((Call.dispatchCounter counter before).StandsFor s.running) := by
  rw [dispatchCounter, h.isActive, if_neg Bool.false_ne_true]
  obtain ⟨read, count, hreads, hok⟩ :=
    process_reads h ⟨s.running, .dispatchCounter before counter⟩
  split <;> rename_i hprocess <;> rw [hprocess] at hreads hok
  · exact hreads.accounts_failed _
  all_goals
    obtain ⟨p, rfl, rfl, hsettle⟩ := hok _ rfl
    obtain ⟨_, _, hp, he, hbody⟩ := Entry.settle_ok_cases hsettle
    have hstands : ∀ succeeds : Bool, succeeds →
        (Call.dispatchCounter counter before).StandsFor s.running [p.entry] := by
      intro _ _
      rw [hp]
      cases hbody with
      | dispatchCounter _ _ recorded => exact ⟨recorded, rfl⟩
  · exact (hreads.checkCounter _ _ _).accounts_passage (hstands _)
  · exact hreads.accounts_passage (hstands _)

theorem initMemLayout_accounts {s : Session} (h : s.Replays) (vstart stackTop : UInt64) :
    s.Accounts (s.initMemLayout vstart stackTop).2.2.2 (s.initMemLayout vstart stackTop).1.isOk
      ((Call.initMemLayout vstart stackTop).StandsFor s.running) := by
  rw [initMemLayout, h.isActive, if_neg Bool.false_ne_true]
  obtain ⟨read, count, hreads, hok⟩ :=
    process_reads h ⟨s.running, .initMemLayout vstart stackTop⟩
  split <;> rename_i hprocess <;> rw [hprocess] at hreads hok
  · exact hreads.accounts_failed _
  · rename_i recordedStart recordedTop _
    obtain ⟨p, rfl, rfl, hsettle⟩ := hok _ rfl
    obtain ⟨_, _, hp, he, hbody⟩ := Entry.settle_ok_cases hsettle
    split
    · exact hreads.accounts_failed _
    · rename_i hlayout
      apply hreads.accounts_passage
      intro _
      rw [checkLayout] at hlayout
      split at hlayout
      · cases hlayout
      · rename_i htop
        split at hlayout
        · cases hlayout
        · rename_i hstart
          rw [hp]
          cases hbody with
          | initMemLayout =>
            cases he
            exact ⟨recordedStart, recordedTop, by simpa using hstart, by simpa using htop, rfl⟩
  · rename_i hother
    obtain ⟨p, rfl, rfl, hsettle⟩ := hok _ rfl
    obtain ⟨_, _, hp, rfl, hbody⟩ := Entry.settle_ok_cases hsettle
    cases hbody with
    | initMemLayout => exact (hother _ _ _ rfl).elim

theorem processStack_accounts {s : Session} (h : s.Replays) (addr : UInt64) (size : UInt32)
    (memory : Guest.Memory) :
    s.Accounts (s.processStack addr size memory).2.2 (s.processStack addr size memory).1.isOk
      fun entries => ∃ len addr, len.toNat = size.toNat ∧
        entries = [⟨s.running, .data len addr⟩] := by
  rw [processStack]
  split
  · exact h.reads_refl.accounts_failed _
  · rename_i bytes _
    obtain ⟨read, count, hreads, hok⟩ := processData_reads h (.data s.running size.toNat addr) bytes
    split <;> rename_i hprocess <;> rw [hprocess] at hreads hok
    · exact hreads.accounts_failed _
    · obtain ⟨p, rfl, rfl, hsettle, _⟩ := hok _ rfl
      obtain ⟨_, _, hp, _, hbody⟩ := Entry.settle_ok_cases hsettle
      apply hreads.accounts_passage
      intro _
      rw [hp]
      cases hbody with
      | data _ _ addr' =>
        have hsize : size.toNat < 2 ^ 64 := Nat.lt_trans size.toNat_lt (by decide)
        exact ⟨_, addr', UInt64.toNat_ofNat_of_lt' hsize, rfl⟩

theorem initClientStack_accounts {s : Session} (h : s.Replays) (stackTop : UInt64)
    (image : Guest.StackImage) (memory : Guest.Memory) :
    s.Accounts (s.initClientStack stackTop image memory).2.2.2
      (s.initClientStack stackTop image memory).1.isOk
      ((Call.initClientStack stackTop image memory).StandsFor s.running) := by
  rw [initClientStack, h.isActive, if_neg Bool.false_ne_true, h.mode_eq]
  dsimp only [Mode.isRecord]
  split
  · exact h.reads_refl.accounts_failed _
  · rename_i size _
    split
    · exact h.reads_refl.accounts_failed _
    · obtain ⟨read, count, hreads, hok⟩ :=
        process_reads h ⟨s.running, .initClientStack size image.auxv⟩
      split <;> rename_i hprocess <;> rw [hprocess] at hreads hok
      · exact hreads.accounts_failed _
      · rename_i size' auxv' s'
        obtain ⟨p, rfl, rfl, hsettle⟩ := hok _ rfl
        obtain ⟨_, _, hp, he, hbody⟩ := Entry.settle_ok_cases hsettle
        split
        · exact hreads.accounts_failed _
        · rename_i image' _
          obtain ⟨read, count, hstack, hok⟩ :=
            processStack_accounts hreads.replays image'.initialSp size' memory
          refine ⟨_, _, hreads.trans hstack, ?_⟩
          intro hsucceeds
          obtain ⟨entries, hspells, rfl, len, addr, hlen, rfl⟩ := hok hsucceeds
          refine ⟨_, p.spells.append hspells, rfl, size', auxv', len, addr, hlen, ?_⟩
          rw [hp, hreads.running]
          cases hbody with
          | initClientStack =>
            cases he
            rfl
      · rename_i hother
        obtain ⟨p, rfl, rfl, hsettle⟩ := hok _ rfl
        obtain ⟨_, _, hp, rfl, hbody⟩ := Entry.settle_ok_cases hsettle
        cases hbody with
        | initClientStack => exact (hother _ _ _ rfl).elim

theorem timestamp_accounts {s : Session} (h : s.Replays) (counter : UInt64) :
    s.Accounts (s.timestamp counter).2 (s.timestamp counter).1.isOk
      ((Call.timestamp counter).StandsFor s.running) := by
  rw [timestamp, h.isActive, if_neg Bool.false_ne_true]
  generalize (if s.readsCounter then counter else 0) = live
  obtain ⟨read, count, hreads, hok⟩ :=
    process_reads h ⟨s.running, .timestamp live.toUInt32 (live >>> 32).toUInt32⟩
  split <;> rename_i hprocess <;> rw [hprocess] at hreads hok
  · exact hreads.accounts_failed _
  all_goals
    obtain ⟨p, rfl, rfl, hsettle⟩ := hok _ rfl
    obtain ⟨_, _, hp, he, hbody⟩ := Entry.settle_ok_cases hsettle
    apply hreads.accounts_passage
    intro _
    rw [hp]
    cases hbody with
    | timestamp _ _ low high => exact ⟨low, high, rfl⟩

theorem syscallMem_of_active {s : Session} (h : (!s.mode.isActive) = false)
    (regions : List Guest.Memory) : s.syscallMem regions = s.processRegions regions := by
  rw [syscallMem, h, if_neg Bool.false_ne_true]

theorem initGuestState_of_active {s : Session} (h : (!s.mode.isActive) = false)
    (registers : Bytes) : s.initGuestState registers = s.snapshot registers := by
  rw [initGuestState, h, if_neg Bool.false_ne_true]

theorem registerProbe_accounts {s : Session} (h : s.Replays) (slot : ThreadId) (probe : ExitProbe) :
    s.Accounts (s.registerProbe slot probe).2 (s.registerProbe slot probe).1.isOk
      ((Call.registerProbe slot probe).StandsFor s.running) := by
  rw [registerProbe]
  split
  · exact ⟨[], 0, h.reads_nil rfl rfl rfl, fun _ => ⟨[], spells_nil, rfl, rfl⟩⟩
  · exact h.reads_refl.accounts_failed _

theorem close_reads {s : Session} (h : s.Replays) : s.Reads [] 0 s.close.2 := by
  rw [close]
  split
  · exact h.reads_refl
  · obtain ⟨rest, offset, resolved, hs⟩ := h
    have hfinish : s.finish = s := by
      rw [finish, hs]
    rw [hfinish]
    exact Replays.reads_nil ⟨rest, offset, resolved, hs⟩ rfl rfl rfl

theorem isOk_map {ε α β : Type} (f : α → β) (result : Except ε α) :
    (result.map f).isOk = result.isOk := by
  cases result <;> rfl

/-- A call reads on in the log and lets nobody else run; where it succeeds, it read exactly the entries that it
stands for. -/
theorem perform_accounts {s : Session} (h : s.Replays) (call : Call) :
    s.Accounts (s.perform call).2 (s.perform call).1.result.isOk (call.StandsFor s.running) := by
  cases call with
  | clientCmdline live => simpa only [perform, isOk_map] using clientCmdline_accounts h live
  | threadCreate parent child kernel =>
    simpa only [perform, isOk_map] using threadCreate_accounts h parent child kernel
  | syscallArgs thread sysno registers =>
    simpa only [perform, isOk_map] using syscallArgs_accounts h thread sysno registers
  | syscallRet value => simpa only [perform, isOk_map] using syscallRet_accounts h value
  | syscallMem regions =>
    simp only [perform, isOk_map, syscallMem_of_active h.isActive]
    exact processRegions_accounts h regions
  | dispatchCounter counter before =>
    simpa only [perform, isOk_map] using dispatchCounter_accounts h counter before
  | initMemLayout vstart stackTop =>
    simpa only [perform, isOk_map] using initMemLayout_accounts h vstart stackTop
  | initClientStack stackTop image memory =>
    simpa only [perform, isOk_map] using initClientStack_accounts h stackTop image memory
  | initGuestState registers =>
    simp only [perform, isOk_map, initGuestState_of_active h.isActive]
    exact snapshot_accounts h registers
  | snapshot registers => simpa only [perform, isOk_map] using snapshot_accounts h registers
  | timestamp counter => simpa only [perform, isOk_map] using timestamp_accounts h counter
  | registerProbe slot probe =>
    simpa only [perform, isOk_map] using registerProbe_accounts h slot probe
  | close => exact ⟨[], 0, close_reads h, fun _ => ⟨[], spells_nil, rfl, rfl⟩⟩

end Session

end Retrace
