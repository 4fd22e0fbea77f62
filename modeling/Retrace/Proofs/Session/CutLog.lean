import Retrace.Proofs.Log.Cutting
import Retrace.Proofs.Session.Framing
import Retrace.Proofs.Session.Handout

namespace Retrace

open Log

instance : ReadsLog Channel where
  extend tail c := match c with
    | .replay r => .replay (extend tail r)
    | c => c
  left c := match c with
    | .replay r => left r
    | _ => []
  plain c := ∃ rest offset resolved, c = .replay (.plain rest offset resolved)
  extend_nil c := by
    cases c with
    | replay r => exact congrArg Channel.replay (ReadsLog.extend_nil r)
    | _ => rfl

instance : ReadsLog Session where
  extend tail s := { s with channel := extend tail s.channel }
  left s := s.unread
  plain s := s.Replays
  extend_nil s := by rw [ReadsLog.extend_nil]

inductive SessionError.RunsOut : SessionError → Prop
  | desync {reason : Desync} (h : reason.RunsOut) : RunsOut (.desync reason)

namespace Session

theorem left_le_of_reads {s s' : Session} {read : Bytes} {count : Nat}
    (h : s.channel.Reads read count s'.channel) : (left s').length ≤ (left s).length := by
  change s'.unread.length ≤ s.unread.length
  rw [unread_of_reads h, List.length_append]
  exact Nat.le_add_left _ _

theorem Replays.extend {s : Session} (h : s.Replays) (tail : Bytes) :
    (extend tail s).Replays := by
  obtain ⟨rest, offset, resolved, hs⟩ := h
  refine ⟨rest ++ tail, offset, resolved, ?_⟩
  change ReadsLog.extend tail s.channel = _
  rw [hs]
  rfl

theorem channel_extend {s : Session} {rest tail : Bytes} {offset resolved : Nat}
    (hs : s.channel = .replay (.plain rest offset resolved)) :
    (extend tail s).channel = .replay (.plain (rest ++ tail) offset resolved) := by
  change ReadsLog.extend tail s.channel = _
  rw [hs]
  rfl

theorem beyond_of_reads {s s' : Session} {read : Bytes} {count limit : Nat}
    (h : s.channel.Reads read count s'.channel) (hbeyond : (left s).length < limit) :
    (left s').length < limit :=
  Nat.lt_of_le_of_lt (left_le_of_reads h) hbeyond

theorem process_cut {s : Session} (h : s.Replays) (tail : Bytes) (template : Entry) :
    Cut SessionError.RunsOut tail (s.process template) ((extend tail s).process template) := by
  have hclosed : (extend tail s).isClosed = s.isClosed := rfl
  rw [process, process, hclosed]
  split
  · exact .same _ h
  · obtain ⟨rest, offset, resolved, hs⟩ := h
    have hresolve := Reader.resolve_cut rest tail offset resolved template
    rw [channel_extend hs, hs, Channel.process, Channel.process]
    dsimp only
    generalize (Reader.plain rest offset resolved).resolve template = short,
      (Reader.plain (rest ++ tail) offset resolved).resolve template = whole at hresolve
    cases hresolve with
    | same result hplain =>
      obtain ⟨rest', offset', resolved', rfl⟩ := hplain
      cases result with
      | error e => exact .same _ ⟨_, _, _, rfl⟩
      | ok entry => exact .same _ ⟨_, _, _, rfl⟩
    | @short _ _ _ result' hends hplain hbeyond =>
      obtain ⟨rest', offset', resolved', rfl⟩ := hplain
      cases result' with
      | error e => exact .short (.desync hends) ⟨_, _, _, rfl⟩ hbeyond
      | ok entry => exact .short (.desync hends) ⟨_, _, _, rfl⟩ hbeyond

theorem processData_cut {s : Session} (h : s.Replays) (tail : Bytes) (template : Entry)
    (buffer : Bytes) :
    Cut SessionError.RunsOut tail (s.processData template buffer)
      ((extend tail s).processData template buffer) := by
  have hclosed : (extend tail s).isClosed = s.isClosed := rfl
  rw [processData, processData, hclosed]
  split
  · exact .same _ h
  · obtain ⟨rest, offset, resolved, hs⟩ := h
    have hresolve := Reader.resolveData_cut rest tail offset resolved template buffer
    rw [channel_extend hs, hs, Channel.processData, Channel.processData]
    dsimp only
    generalize (Reader.plain rest offset resolved).resolveData template buffer = short,
      (Reader.plain (rest ++ tail) offset resolved).resolveData template buffer = whole at hresolve
    cases hresolve with
    | @same result state hplain =>
      obtain ⟨filled, r⟩ := state
      obtain ⟨rest', offset', resolved', rfl⟩ := hplain
      cases result with
      | error e => exact .same _ ⟨_, _, _, rfl⟩
      | ok entry => exact .same _ ⟨_, _, _, rfl⟩
    | @short _ _ state' result' hends hplain hbeyond =>
      obtain ⟨filled, r⟩ := state'
      obtain ⟨rest', offset', resolved', rfl⟩ := hplain
      cases result' with
      | error e => exact .short (.desync hends) ⟨_, _, _, rfl⟩ hbeyond
      | ok entry => exact .short (.desync hends) ⟨_, _, _, rfl⟩ hbeyond

theorem clientCmdline_cut {s : Session} (h : s.Replays) (tail : Bytes) (live : Guest.CommandLine) :
    Cut SessionError.RunsOut tail (s.clientCmdline live) ((extend tail s).clientCmdline live) := by
  have hclosed : (extend tail s).isClosed = s.isClosed := rfl
  have hrunning : (extend tail s).running = s.running := rfl
  rw [clientCmdline, clientCmdline, hclosed, hrunning]
  split
  · exact .same _ h
  · obtain ⟨rest, offset, resolved, hs⟩ := h
    have hresolve :=
      Reader.resolveCmdline_cut rest tail offset resolved ⟨s.running, .clientCmdline 0⟩
    rw [channel_extend hs, hs]
    dsimp only
    generalize (Reader.plain rest offset resolved).resolveCmdline _ = short,
      (Reader.plain (rest ++ tail) offset resolved).resolveCmdline _ = whole at hresolve
    cases hresolve with
    | same result hplain =>
      obtain ⟨rest', offset', resolved', rfl⟩ := hplain
      cases result with
      | error e => exact .same _ ⟨_, _, _, rfl⟩
      | ok entry => exact .same _ ⟨_, _, _, rfl⟩
    | @short _ _ _ result' hends hplain hbeyond =>
      obtain ⟨rest', offset', resolved', rfl⟩ := hplain
      cases result' with
      | error e => exact .short (.desync hends) ⟨_, _, _, rfl⟩ hbeyond
      | ok entry => exact .short (.desync hends) ⟨_, _, _, rfl⟩ hbeyond

theorem identify_cut {s : Session} (h : s.Replays) (tail : Bytes) (child : ThreadId)
    (recorded kernel : KernelTid) :
    Cut SessionError.RunsOut tail (s.identify child recorded kernel)
      ((extend tail s).identify child recorded kernel) := by
  have hidentities : (extend tail s).identities = s.identities := rfl
  rw [identify, identify, hidentities]
  split
  · exact .same _ h
  · exact .same _ h

theorem identify_channel (s : Session) (child : ThreadId) (recorded kernel : KernelTid) :
    (s.identify child recorded kernel).2.channel = s.channel := by
  rw [identify]
  split
  · rfl
  · rfl

theorem threadCreate_cut {s : Session} (h : s.Replays) (tail : Bytes) (parent child : ThreadId)
    (kernel : KernelTid) :
    Cut SessionError.RunsOut tail (s.threadCreate parent child kernel)
      ((extend tail s).threadCreate parent child kernel) := by
  have hcheck : (extend tail s).checkRunning parent = s.checkRunning parent := rfl
  have hrunning : (extend tail s).running = s.running := rfl
  have hprocess := process_cut h tail ⟨s.running, .threadCreate child kernel⟩
  rw [threadCreate, threadCreate, h.isActive, (h.extend tail).isActive, hcheck, hrunning]
  simp only [Bool.false_eq_true, ↓reduceIte]
  split
  · exact .same _ h
  · generalize s.process _ = short, (extend tail s).process _ = whole at hprocess
    cases hprocess with
    | @same result s' hplain =>
      have hplain : s'.Replays := hplain
      cases result with
      | error e => exact .same _ hplain
      | ok resolved =>
        dsimp only
        rw [hplain.mode_eq, (hplain.extend tail).mode_eq]
        split
        · exact identify_cut hplain tail child _ kernel
        · exact .same _ hplain
    | @short _ _ s' result' hends hplain hbeyond =>
      have hplain : s'.Replays := hplain
      cases result' with
      | error e => exact .short hends hplain hbeyond
      | ok resolved =>
        dsimp only
        split
        · rename_i recorded _ _
          have hreads := hplain.reads_nothing (s'.identify_channel child recorded kernel)
          exact .short hends (replays_of_reads hreads) (beyond_of_reads hreads hbeyond)
        · exact .short hends hplain hbeyond

theorem snapshot_cut {s : Session} (h : s.Replays) (tail live : Bytes) :
    Cut SessionError.RunsOut tail (s.snapshot live) ((extend tail s).snapshot live) := by
  have hclosed : (extend tail s).isClosed = s.isClosed := rfl
  have hrunning : (extend tail s).running = s.running := rfl
  have hverifier : (extend tail s).verifier = s.verifier := rfl
  have hbuffer : (if Mode.replay.isReplay then Verifier.scratch live.length else live) =
      Verifier.scratch live.length := rfl
  have hprocess := processData_cut h tail (.snapshot s.running live.length)
    (Verifier.scratch live.length)
  have hcompare {s' : Session} (hplain : s'.Replays) (recorded : Bytes) :
      (if s'.mode.isReplay then s'.compare live recorded else s') = s'.compare live recorded := by
    rw [hplain.mode_eq]
    rfl
  rw [snapshot, snapshot, h.isActive, (h.extend tail).isActive, h.mode_eq, (h.extend tail).mode_eq,
    hclosed, hrunning, hverifier, hbuffer]
  simp only [Bool.false_eq_true, ↓reduceIte]
  split
  · exact .same _ h
  · split
    · exact .same _ h
    · generalize s.processData _ _ = short, (extend tail s).processData _ _ = whole at hprocess
      cases hprocess with
      | @same result state hplain =>
        obtain ⟨recorded, s'⟩ := state
        replace hplain : s'.Replays := hplain
        cases result with
        | error e => exact .same _ hplain
        | ok entry =>
          change Cut _ _ (.ok (), if s'.mode.isReplay then s'.compare live recorded else s')
            (.ok (), if (extend tail s').mode.isReplay then (extend tail s').compare live recorded
              else extend tail s')
          rw [hcompare hplain, hcompare (hplain.extend tail)]
          exact .same _ hplain
      | @short _ _ state' result' hends hplain hbeyond =>
        obtain ⟨recorded, s'⟩ := state'
        replace hplain : s'.Replays := hplain
        cases result' with
        | error e => exact .short hends hplain hbeyond
        | ok entry =>
          dsimp only
          rw [hcompare hplain]
          exact .short hends hplain hbeyond

theorem syscallArgs_cut {s : Session} (h : s.Replays) (tail : Bytes) (thread : ThreadId)
    (sysno : UInt32) (registers : Bytes) :
    Cut SessionError.RunsOut tail (s.syscallArgs thread sysno registers)
      ((extend tail s).syscallArgs thread sysno registers) := by
  have hcheck : (extend tail s).checkRunning thread = s.checkRunning thread := rfl
  have hprocess := process_cut h tail (.syscallArgs thread sysno)
  rw [syscallArgs, syscallArgs, h.isActive, (h.extend tail).isActive, hcheck]
  simp only [Bool.false_eq_true, ↓reduceIte]
  split
  · exact .same _ h
  · generalize s.process _ = short, (extend tail s).process _ = whole at hprocess
    cases hprocess with
    | @same result s' hplain =>
      cases result with
      | error e => exact .same _ hplain
      | ok resolved => exact snapshot_cut hplain tail registers
    | @short _ _ s' result' hends hplain hbeyond =>
      cases result' with
      | error e => exact .short hends hplain hbeyond
      | ok resolved =>
        obtain ⟨read, count, hreads, _⟩ := snapshot_accounts hplain registers
        exact .short hends hreads.replays (beyond_of_reads hreads.channel hbeyond)

theorem syscallRet_cut {s : Session} (h : s.Replays) (tail : Bytes) (value : UInt64) :
    Cut SessionError.RunsOut tail (s.syscallRet value) ((extend tail s).syscallRet value) := by
  have hrunning : (extend tail s).running = s.running := rfl
  have hprocess := process_cut h tail (.syscallRet s.running value)
  rw [syscallRet, syscallRet, h.isActive, (h.extend tail).isActive, hrunning]
  simp only [Bool.false_eq_true, ↓reduceIte]
  generalize s.process _ = short, (extend tail s).process _ = whole at hprocess
  cases hprocess with
  | @same result s' hplain =>
    rcases result with e | ⟨thread, body⟩
    · exact .same _ hplain
    · cases body <;> exact .same _ hplain
  | @short _ _ s' result' hends hplain hbeyond =>
    rcases result' with e | ⟨thread, body⟩
    · exact .short hends hplain hbeyond
    · cases body <;> exact .short hends hplain hbeyond

theorem processRegions_cut {s : Session} (h : s.Replays) (tail : Bytes)
    (regions : List Guest.Memory) :
    Cut SessionError.RunsOut tail (s.processRegions regions)
      ((extend tail s).processRegions regions) := by
  induction regions generalizing s with
  | nil => exact .same _ h
  | cons region rest ih =>
    have hrunning : (extend tail s).running = s.running := rfl
    have hprocess := processData_cut h tail (.data s.running region.bytes.length region.base)
      region.bytes
    rw [processRegions, processRegions, hrunning]
    generalize s.processData _ _ = short, (extend tail s).processData _ _ = whole at hprocess
    cases hprocess with
    | @same result state hplain =>
      obtain ⟨bytes, s'⟩ := state
      cases result with
      | error e => exact .same _ hplain
      | ok entry =>
        have hrest := ih hplain
        have hstate : extend tail (bytes, s') = (bytes, extend tail s') := rfl
        rw [hstate]
        dsimp only
        generalize s'.processRegions rest = short, (extend tail s').processRegions rest = whole
          at hrest
        cases hrest with
        | same result hplain => exact .same _ hplain
        | short hends hplain hbeyond => exact .short hends hplain hbeyond
    | @short _ _ state' result' hends hplain hbeyond =>
      obtain ⟨bytes, s'⟩ := state'
      cases result' with
      | error e => exact .short hends hplain hbeyond
      | ok entry =>
        obtain ⟨read, count, hreads, _⟩ := processRegions_accounts hplain rest
        exact .short hends hreads.replays (beyond_of_reads hreads.channel hbeyond)

theorem checkCounter_cut {s : Session} (h : s.Replays) (tail : Bytes) (before : Bool)
    (counter recorded : UInt64) :
    Cut SessionError.RunsOut tail (.ok (), s.checkCounter before counter recorded)
      (.ok (), (extend tail s).checkCounter before counter recorded) := by
  have hplain := h.reads_refl.checkCounter before counter recorded
  have hsame : (extend tail s).checkCounter before counter recorded =
      extend tail (s.checkCounter before counter recorded) := by
    rw [checkCounter, checkCounter]
    split
    · rfl
    · rfl
  rw [hsame]
  exact .same _ hplain.replays

theorem dispatchCounter_cut {s : Session} (h : s.Replays) (tail : Bytes) (counter : UInt64)
    (before : Bool) :
    Cut SessionError.RunsOut tail (s.dispatchCounter counter before)
      ((extend tail s).dispatchCounter counter before) := by
  have hrunning : (extend tail s).running = s.running := rfl
  have hprocess := process_cut h tail ⟨s.running, .dispatchCounter before counter⟩
  rw [dispatchCounter, dispatchCounter, h.isActive, (h.extend tail).isActive, hrunning]
  simp only [Bool.false_eq_true, ↓reduceIte]
  generalize s.process _ = short, (extend tail s).process _ = whole at hprocess
  cases hprocess with
  | @same result s' hplain =>
    rcases result with e | ⟨thread, body⟩
    · exact .same _ hplain
    · cases body with
      | dispatchCounter before' recorded => exact checkCounter_cut hplain tail before counter recorded
      | _ => exact .same _ hplain
  | @short _ _ s' result' hends hplain hbeyond =>
    rcases result' with e | ⟨thread, body⟩
    · exact .short hends hplain hbeyond
    · cases body with
      | dispatchCounter before' recorded =>
        have hreads := (Replays.reads_refl hplain).checkCounter before counter recorded
        exact .short hends hreads.replays (beyond_of_reads hreads.channel hbeyond)
      | _ => exact .short hends hplain hbeyond

theorem initMemLayout_cut {s : Session} (h : s.Replays) (tail : Bytes) (vstart stackTop : UInt64) :
    Cut SessionError.RunsOut tail (s.initMemLayout vstart stackTop)
      ((extend tail s).initMemLayout vstart stackTop) := by
  have hrunning : (extend tail s).running = s.running := rfl
  have hprocess := process_cut h tail ⟨s.running, .initMemLayout vstart stackTop⟩
  rw [initMemLayout, initMemLayout, h.isActive, (h.extend tail).isActive, hrunning]
  simp only [Bool.false_eq_true, ↓reduceIte]
  generalize s.process _ = short, (extend tail s).process _ = whole at hprocess
  cases hprocess with
  | @same result s' hplain =>
    rcases result with e | ⟨thread, body⟩
    · exact .same _ hplain
    · cases body with
      | initMemLayout recordedStart recordedTop =>
        dsimp only
        split
        · exact .same _ hplain
        · exact .same _ hplain
      | _ => exact .same _ hplain
  | @short _ _ s' result' hends hplain hbeyond =>
    rcases result' with e | ⟨thread, body⟩
    · exact .short hends hplain hbeyond
    · cases body with
      | initMemLayout recordedStart recordedTop =>
        dsimp only
        split
        · exact .short hends hplain hbeyond
        · exact .short hends hplain hbeyond
      | _ => exact .short hends hplain hbeyond

theorem processStack_cut {s : Session} (h : s.Replays) (tail : Bytes) (addr : UInt64) (size : UInt32)
    (memory : Guest.Memory) :
    Cut SessionError.RunsOut tail (s.processStack addr size memory)
      ((extend tail s).processStack addr size memory) := by
  have hrunning : (extend tail s).running = s.running := rfl
  rw [processStack, processStack, hrunning]
  split
  · exact .same _ h
  · rename_i bytes _
    have hprocess := processData_cut h tail (.data s.running size.toNat addr) bytes
    generalize s.processData _ _ = short, (extend tail s).processData _ _ = whole at hprocess
    cases hprocess with
    | @same result state hplain =>
      obtain ⟨bytes, s'⟩ := state
      cases result with
      | error e => exact .same _ hplain
      | ok entry => exact .same _ hplain
    | @short _ _ state' result' hends hplain hbeyond =>
      obtain ⟨bytes, s'⟩ := state'
      cases result' with
      | error e => exact .short hends hplain hbeyond
      | ok entry => exact .short hends hplain hbeyond

theorem readsCounter_extend {s : Session} (h : s.Replays) {tail : Bytes} :
    (extend tail s).readsCounter = s.readsCounter := by
  rw [readsCounter, readsCounter, h.mode_eq, (h.extend tail).mode_eq]

theorem timestamp_cut {s : Session} (h : s.Replays) (tail : Bytes) (counter : UInt64) :
    Cut SessionError.RunsOut tail (s.timestamp counter) ((extend tail s).timestamp counter) := by
  have hrunning : (extend tail s).running = s.running := rfl
  rw [timestamp, timestamp, h.isActive, (h.extend tail).isActive, hrunning, readsCounter_extend h]
  simp only [Bool.false_eq_true, ↓reduceIte]
  generalize (if s.readsCounter then counter else 0) = live
  have hprocess := process_cut h tail
    ⟨s.running, .timestamp live.toUInt32 (live >>> 32).toUInt32⟩
  generalize s.process _ = short, (extend tail s).process _ = whole at hprocess
  cases hprocess with
  | @same result s' hplain =>
    rcases result with e | ⟨thread, body⟩
    · exact .same _ hplain
    · cases body <;> exact .same _ hplain
  | @short _ _ s' result' hends hplain hbeyond =>
    rcases result' with e | ⟨thread, body⟩
    · exact .short hends hplain hbeyond
    · cases body <;> exact .short hends hplain hbeyond

theorem initClientStack_cut {s : Session} (h : s.Replays) (tail : Bytes) (stackTop : UInt64)
    (image : Guest.StackImage) (memory : Guest.Memory) :
    Cut SessionError.RunsOut tail (s.initClientStack stackTop image memory)
      ((extend tail s).initClientStack stackTop image memory) := by
  have hrunning : (extend tail s).running = s.running := rfl
  have hrecord : Mode.replay.isRecord = false := rfl
  have hreplay : Mode.replay.isReplay = true := rfl
  rw [initClientStack, initClientStack, h.isActive, (h.extend tail).isActive, hrunning, h.mode_eq,
    (h.extend tail).mode_eq, hrecord]
  simp only [Bool.false_eq_true, ↓reduceIte]
  split
  · exact .same _ h
  · have hprocess := process_cut h tail ⟨s.running, .initClientStack 0 image.auxv⟩
    generalize s.process _ = short, (extend tail s).process _ = whole at hprocess
    cases hprocess with
    | @same result s' hplain =>
      replace hplain : s'.Replays := hplain
      rcases result with e | ⟨thread, body⟩
      · exact .same _ hplain
      · cases body with
        | initClientStack size auxv =>
          dsimp only
          rw [hplain.mode_eq, (hplain.extend tail).mode_eq, hreplay]
          simp only [↓reduceIte]
          split
          · exact .same _ hplain
          · rename_i recorded _
            have hstack := processStack_cut hplain tail recorded.initialSp size memory
            generalize s'.processStack _ _ _ = short,
              (extend tail s').processStack _ _ _ = whole at hstack
            cases hstack with
            | same result hplain => exact .same _ hplain
            | short hends hplain hbeyond => exact .short hends hplain hbeyond
        | _ => exact .same _ hplain
    | @short _ _ s' result' hends hplain hbeyond =>
      replace hplain : s'.Replays := hplain
      rcases result' with e | ⟨thread, body⟩
      · exact .short hends hplain hbeyond
      · cases body with
        | initClientStack size auxv =>
          dsimp only
          rw [hplain.mode_eq, hreplay]
          simp only [↓reduceIte]
          split
          · exact .short hends hplain hbeyond
          · rename_i recorded _
            obtain ⟨read, count, hreads, _⟩ :=
              processStack_accounts hplain recorded.initialSp size memory
            exact .short hends hreads.replays (beyond_of_reads hreads.channel hbeyond)
        | _ => exact .short hends hplain hbeyond

theorem close_cut {s : Session} (h : s.Replays) (tail : Bytes) :
    (extend tail s).close = (s.close.1, extend tail s.close.2) := by
  have hfinish {s : Session} (h : s.Replays) : s.finish = s := by
    obtain ⟨rest, offset, resolved, hs⟩ := h
    rw [finish, hs]
  have htally : (extend tail s).tally = s.tally := by
    obtain ⟨rest, offset, resolved, hs⟩ := h
    rw [tally, tally, mode, mode, channel_extend hs, hs]
    rfl
  have hsummary : (extend tail s).summary = s.summary := rfl
  rw [close, close, hsummary]
  split
  · rfl
  · rw [hfinish h, hfinish (h.extend tail)]
    dsimp only
    rw [htally]
    rfl

theorem registerProbe_cut {s : Session} (h : s.Replays) (tail : Bytes) (slot : ThreadId)
    (probe : ExitProbe) :
    Cut SessionError.RunsOut tail (s.registerProbe slot probe)
      ((extend tail s).registerProbe slot probe) := by
  have hidentities : (extend tail s).identities = s.identities := rfl
  rw [registerProbe, registerProbe, hidentities]
  split
  · exact .same _ h
  · exact .same _ h

def CutReply (tail : Bytes) (short whole : Reply × Session) : Prop :=
  whole = (short.1, extend tail short.2) ∨
    (∃ e, short.1.result = .error e ∧ e.RunsOut) ∧ (left whole.2).length < tail.length

theorem CutReply.of_cut {α : Type} {tail : Bytes} {short whole : Except SessionError α × Session}
    (h : Cut SessionError.RunsOut tail short whole) (reply : Except SessionError α → Reply)
    (hreply : ∀ e, (reply (.error e)).result = .error e) :
    CutReply tail (reply short.1, short.2) (reply whole.1, whole.2) := by
  cases h with
  | same result => exact .inl rfl
  | short hends _ hbeyond => exact .inr ⟨⟨_, hreply _, hends⟩, hbeyond⟩

theorem CutReply.of_cut_changed {α β : Type} {tail : Bytes}
    {short whole : Except SessionError α × β × Session}
    (h : Cut SessionError.RunsOut tail short whole) (reply : Except SessionError α → β → Reply)
    (hreply : ∀ e changed, (reply (.error e) changed).result = .error e) :
    CutReply tail (reply short.1 short.2.1, short.2.2) (reply whole.1 whole.2.1, whole.2.2) := by
  cases h with
  | same result => exact .inl rfl
  | short hends _ hbeyond => exact .inr ⟨⟨_, hreply _ _, hends⟩, hbeyond⟩

/-- As long as a call reads nothing beyond the cut, both logs give the same; what is read beyond fails on the
cut log. -/
theorem perform_cut {s : Session} (h : s.Replays) (tail : Bytes) (call : Call) :
    CutReply tail (s.perform call) ((extend tail s).perform call) := by
  cases call with
  | clientCmdline live =>
    exact .of_cut (clientCmdline_cut h tail live)
      (fun result => ⟨result.map .commandLine, .clientCmdline live, false⟩) fun _ => rfl
  | threadCreate parent child kernel =>
    exact .of_cut (threadCreate_cut h tail parent child kernel)
      (fun result => ⟨result.map .kernelTid, .threadCreate parent child kernel, false⟩) fun _ => rfl
  | syscallArgs thread sysno registers =>
    exact .of_cut (syscallArgs_cut h tail thread sysno registers)
      (fun result => ⟨result.map .ofUnit, .syscallArgs thread sysno registers, false⟩) fun _ => rfl
  | syscallRet value =>
    exact .of_cut_changed (syscallRet_cut h tail value)
      (fun result value => ⟨result.map .ofUnit, .syscallRet value, false⟩) fun _ _ => rfl
  | syscallMem regions =>
    rw [perform, perform, syscallMem_of_active h.isActive,
      syscallMem_of_active (h.extend tail).isActive]
    exact .of_cut_changed (processRegions_cut h tail regions)
      (fun result regions => ⟨result.map .ofUnit, .syscallMem regions, false⟩) fun _ _ => rfl
  | dispatchCounter counter before =>
    exact .of_cut (dispatchCounter_cut h tail counter before)
      (fun result => ⟨result.map .ofUnit, .dispatchCounter counter before, false⟩) fun _ => rfl
  | initMemLayout vstart stackTop =>
    have hcut := initMemLayout_cut h tail vstart stackTop
    rw [perform, perform]
    generalize s.initMemLayout _ _ = short, (extend tail s).initMemLayout _ _ = whole at hcut
    cases hcut with
    | same result => exact .inl rfl
    | short hends _ hbeyond => exact .inr ⟨⟨_, rfl, hends⟩, hbeyond⟩
  | initClientStack stackTop image memory =>
    have hcut := initClientStack_cut h tail stackTop image memory
    rw [perform, perform]
    generalize s.initClientStack _ _ _ = short, (extend tail s).initClientStack _ _ _ = whole at hcut
    cases hcut with
    | same result => exact .inl rfl
    | short hends _ hbeyond => exact .inr ⟨⟨_, rfl, hends⟩, hbeyond⟩
  | initGuestState registers =>
    rw [perform, perform, initGuestState_of_active h.isActive,
      initGuestState_of_active (h.extend tail).isActive]
    exact .of_cut (snapshot_cut h tail registers)
      (fun result => ⟨result.map .ofUnit, .initGuestState registers, false⟩) fun _ => rfl
  | snapshot registers =>
    exact .of_cut (snapshot_cut h tail registers)
      (fun result => ⟨result.map .ofUnit, .snapshot registers, false⟩) fun _ => rfl
  | timestamp counter =>
    rw [perform, perform, readsCounter_extend h]
    exact .of_cut (timestamp_cut h tail counter)
      (fun result => ⟨result.map .counter, .timestamp counter, s.readsCounter⟩) fun _ => rfl
  | registerProbe slot probe =>
    exact .of_cut (registerProbe_cut h tail slot probe)
      (fun result => ⟨result.map .ofUnit, .registerProbe slot probe, false⟩) fun _ => rfl
  | close =>
    rw [perform, perform, close_cut h tail]
    exact .inl rfl

/-- A cut log that ends with the release of a turn: the turn ends, and nobody is next. -/
structure EndsWithTurn (s : Session) (thread : ThreadId) (tag : ReleaseTag)
    (result : Except SessionError Unit) (s' : Session) : Prop where
  last : ∃ p : Passage, p.entry = .release thread tag ∧ s.unread = p.bytes
  result_eq : result = .ok ()
  replays : s'.Replays
  turn : s'.schedule.turn = .exhausted

theorem handOver_cut {s : Session} (h : s.Replays) (tail : Bytes) :
    Cut SessionError.RunsOut tail s.handOver (extend tail s).handOver ∨
      (s.unread = [] ∧ s.handOver.1 = .ok () ∧ s.handOver.2.Replays ∧
        s.handOver.2.schedule.turn = .exhausted ∧
        (left (extend tail s).handOver.2).length < tail.length) := by
  obtain ⟨rest, offset, resolved, hs⟩ := h
  have hunread : s.unread = rest := by
    rw [unread, hs]
    rfl
  have hschedule : (extend tail s).schedule = s.schedule := rfl
  have hresolve := Reader.resolve_cut rest tail offset resolved (.acquire .nobody .unknown)
  rw [handOver, handOver, channel_extend hs, hs, hunread, hschedule]
  dsimp only
  rcases hshort : (Reader.plain rest offset resolved).resolve (.acquire .nobody .unknown)
    with ⟨result, r⟩
  generalize (Reader.plain (rest ++ tail) offset resolved).resolve _ = whole at hresolve
  rw [hshort] at hresolve
  cases hresolve with
  | same result hplain =>
    obtain ⟨rest', offset', resolved', rfl⟩ := hplain
    left
    rcases result with e | ⟨thread, body⟩
    · cases e <;> exact .same _ ⟨_, _, _, rfl⟩
    · cases body <;> exact .same _ ⟨_, _, _, rfl⟩
  | @short e _ r' result' hends hplain hbeyond =>
    obtain ⟨rest', offset', resolved', rfl⟩ := hplain
    cases hends with
    | endOfLog =>
      obtain ⟨rfl, rfl⟩ := Reader.resolve_endOfLog hshort
      refine .inr ⟨rfl, rfl, ⟨_, _, _, rfl⟩, rfl, ?_⟩
      rcases result' with e | ⟨thread, body⟩
      · cases e <;> exact hbeyond
      · cases body <;> exact hbeyond
    | log hreason =>
      left
      rcases result' with e | ⟨thread, body⟩
      · cases e <;> exact .short (.desync (.log hreason)) ⟨_, _, _, rfl⟩ hbeyond
      · cases body <;> exact .short (.desync (.log hreason)) ⟨_, _, _, rfl⟩ hbeyond

def vacate (s : Session) : Session := { s with running := .nobody }

theorem release_of_replays {s : Session} (h : s.Replays) (thread : ThreadId) (tag : ReleaseTag) :
    s.release thread tag =
      match s.vacate.process (.release thread tag) with
      | (.error e, s) => (.error e, s)
      | (.ok _, s) => s.handOver := by
  have hfree : s.vacate.Replays := h
  have hactive := hfree.isActive
  rw [vacate] at hactive
  rw [release, hactive, if_neg Bool.false_ne_true]
  rfl

theorem release_cut {s : Session} (h : s.Replays) (tail : Bytes) (thread : ThreadId)
    (tag : ReleaseTag) :
    Cut SessionError.RunsOut tail (s.release thread tag) ((extend tail s).release thread tag) ∨
      (s.EndsWithTurn thread tag (s.release thread tag).1 (s.release thread tag).2 ∧
        (left ((extend tail s).release thread tag).2).length < tail.length) := by
  have hfree : s.vacate.Replays := h
  have hwhole : (extend tail s).vacate = extend tail s.vacate := rfl
  have hreads := process_reads hfree (.release thread tag)
  have hprocess := process_cut hfree tail (.release thread tag)
  rw [release_of_replays h, release_of_replays (h.extend tail), hwhole]
  generalize s.vacate.process _ = short, (extend tail s.vacate).process _ = whole at hprocess hreads
  cases hprocess with
  | @same result s' hplain =>
    replace hplain : s'.Replays := hplain
    cases result with
    | error e => exact .inl (.same _ hplain)
    | ok entry =>
      rcases handOver_cut hplain tail with hcut | ⟨hunread, hok, hreplays, hturn, hbeyond⟩
      · exact .inl hcut
      · obtain ⟨read, count, hread, hspelled⟩ := hreads
        obtain ⟨p, rfl, _, hsettle⟩ := hspelled entry rfl
        obtain ⟨_, _, hp, _, hbody⟩ := Entry.settle_ok_cases hsettle
        have hlast : s.unread = p.bytes := by
          have hunread' : s.unread = p.bytes ++ s'.unread := unread_of_reads hread.channel
          rw [hunread', hunread, List.append_nil]
        have hentry : p.entry = .release thread tag := by
          cases hbody with
          | release => exact hp
        exact .inr ⟨⟨⟨p, hentry, hlast⟩, hok, hreplays, hturn⟩, hbeyond⟩
  | @short _ _ s' result' hends hplain hbeyond =>
    replace hplain : s'.Replays := hplain
    cases result' with
    | error e => exact .inl (.short hends hplain hbeyond)
    | ok entry =>
      obtain ⟨read, count, hnext, _⟩ := handOver_reads hplain
      exact .inl (.short hends (replays_of_reads hnext) (beyond_of_reads hnext hbeyond))

theorem exitThread_cut {s : Session} (h : s.Replays) (tail : Bytes) (thread : ThreadId) :
    Cut SessionError.RunsOut tail (s.exitThread thread) ((extend tail s).exitThread thread) ∨
      (s.EndsWithTurn thread .exitThread (s.exitThread thread).1 (s.exitThread thread).2 ∧
        (left ((extend tail s).exitThread thread).2).length < tail.length) := by
  have hrelease := release_cut h tail thread .exitThread
  rw [exitThread, exitThread]
  split
  · exact .inl (.same _ h)
  · generalize s.release _ _ = short, (extend tail s).release _ _ = whole at hrelease
    rcases hrelease with hcut | ⟨hends, hbeyond⟩
    · cases hcut with
      | @same result s' hplain =>
        replace hplain : s'.Replays := hplain
        cases result with
        | error e => exact .inl (.same _ hplain)
        | ok =>
          dsimp only
          rw [hplain.isActive, (hplain.extend tail).isActive]
          exact .inl (.same _ hplain)
      | @short _ _ s' result' hends hplain hbeyond =>
        replace hplain : s'.Replays := hplain
        cases result' with
        | error e => exact .inl (.short hends hplain hbeyond)
        | ok =>
          dsimp only
          rw [hplain.isActive]
          exact .inl (.short hends hplain hbeyond)
    · obtain ⟨result, s'⟩ := short
      obtain ⟨result', s''⟩ := whole
      obtain ⟨hlast, rfl, hreplays, hturn⟩ := hends
      dsimp only
      replace hreplays : s'.Replays := hreplays
      rw [hreplays.isActive]
      refine .inr ⟨⟨hlast, rfl, hreplays, hturn⟩, ?_⟩
      cases result' with
      | error e => exact hbeyond
      | ok =>
        dsimp only
        split
        · exact hbeyond
        · exact hbeyond

theorem awaitExit_extend (s : Session) (tail : Bytes) (answers : ExitProbe → Nat → Bool) :
    (extend tail s).awaitExit answers =
      ((s.awaitExit answers).1, extend tail (s.awaitExit answers).2) := by
  obtain ⟨identities, warnings, hframe, _⟩ := s.awaitExit_frame answers
  have hchannel : (s.awaitExit answers).2.channel = s.channel := by rw [hframe]
  refine (s.awaitExit_relog (ReadsLog.extend tail s.channel) answers).trans ?_
  rw [relog, ← hchannel]
  rfl

end Session

end Retrace
