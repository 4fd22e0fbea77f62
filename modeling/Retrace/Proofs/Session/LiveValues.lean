import Retrace.Proofs.Guest.Ranges
import Retrace.Proofs.Log.Templates
import Retrace.Proofs.Session.Agreement

namespace Retrace

open Log

namespace Session

/-- Two calls leave the same: both fail, for reasons that differ at most in where the live stack began,
or both succeed and show the same. The sessions behind them agree. -/
inductive Twins {α σ γ : Type} (session : σ → Session) (shows : α → σ → γ) :
    Except SessionError α × σ → Except SessionError α × σ → Prop
  | failed {e e' : SessionError} {x x' : σ} (reason : e.unplaced = e'.unplaced)
      (agrees : (session x).Agrees (session x')) : Twins session shows (.error e, x) (.error e', x')
  | done {a a' : α} {x x' : σ} (same : shows a x = shows a' x')
      (agrees : (session x).Agrees (session x')) : Twins session shows (.ok a, x) (.ok a', x')

variable {s s' : Session}

theorem Agrees.process (h : s.Agrees s') {body body' : Body} (hbody : body.SettlesAs body')
    (thread : ThreadId) :
    (s.process ⟨thread, body⟩).1 = (s'.process ⟨thread, body'⟩).1 ∧
      (s.process ⟨thread, body⟩).2.Agrees (s'.process ⟨thread, body'⟩).2 := by
  rw [Session.process, Session.process, ← h.isClosed, ← h.channel]
  split
  · exact ⟨rfl, h⟩
  · obtain ⟨rest, offset, resolved, hs⟩ := h.replays
    obtain ⟨read, count, hreads⟩ := Reader.resolve_reads rest offset resolved ⟨thread, body⟩
    rw [hs, Channel.process, Channel.process, ← Reader.resolve_settlesAs hbody]
    dsimp only
    generalize (Reader.plain rest offset resolved).resolve ⟨thread, body⟩ = taken at hreads
    obtain ⟨result, r⟩ := taken
    obtain ⟨rest', offset', resolved', _, hplain⟩ := hreads
    cases hplain
    cases result with
    | error e => exact ⟨rfl, h.goOn ⟨_, _, _, rfl⟩⟩
    | ok entry => exact ⟨rfl, h.goOn ⟨_, _, _, rfl⟩⟩

theorem Agrees.process_cases (h : s.Agrees s') {body body' : Body} (hbody : body.SettlesAs body')
    (thread : ThreadId) :
    (∃ e next next', s.process ⟨thread, body⟩ = (.error e, next) ∧
        s'.process ⟨thread, body'⟩ = (.error e, next') ∧ next.Agrees next') ∨
      ∃ recorded entry next next', s.process ⟨thread, body⟩ = (.ok entry, next) ∧
        s'.process ⟨thread, body'⟩ = (.ok entry, next') ∧
        Entry.settle ⟨thread, body⟩ recorded = .ok entry ∧ next.Agrees next' := by
  obtain ⟨hresult, hagrees⟩ := h.process hbody thread
  rcases hprocess : s.process ⟨thread, body⟩ with ⟨result, next⟩
  rcases hprocess' : s'.process ⟨thread, body'⟩ with ⟨result', next'⟩
  rw [hprocess, hprocess'] at hresult hagrees
  cases hresult
  cases result with
  | error e => exact .inl ⟨e, next, next', rfl, rfl, hagrees⟩
  | ok entry =>
    obtain ⟨p, _, hsettle⟩ := process_takes h.replays hprocess
    exact .inr ⟨p.entry, entry, next, next', rfl, rfl, hsettle, hagrees⟩

theorem Agrees.processData (h : s.Agrees s') {body body' : Body} (hbody : body.ChecksAs body')
    (thread : ThreadId) {buffer buffer' : Bytes} (hlength : buffer.length = buffer'.length) :
    FillsAs Agrees (s.processData ⟨thread, body⟩ buffer)
      (s'.processData ⟨thread, body'⟩ buffer') := by
  rw [Session.processData, Session.processData, ← h.isClosed, ← h.channel]
  split
  · exact .failed _ _ _ h
  · obtain ⟨rest, offset, resolved, hs⟩ := h.replays
    obtain ⟨read, count, hreads⟩ :=
      Reader.resolveData_reads rest offset resolved ⟨thread, body⟩ buffer
    have hfills := Reader.resolveData_fills hbody (.plain rest offset resolved) thread hlength
    rw [hs, Channel.processData, Channel.processData]
    dsimp only
    generalize (Reader.plain rest offset resolved).resolveData ⟨thread, body⟩ buffer = filled,
      (Reader.plain rest offset resolved).resolveData ⟨thread, body'⟩ buffer' = filled'
      at hreads hfills
    obtain ⟨rest', offset', resolved', _, hplain⟩ := hreads
    cases hfills with
    | failed e buffer buffer' hreader =>
      cases hreader
      cases hplain
      exact .failed _ _ _ (h.goOn ⟨_, _, _, rfl⟩)
    | filled entry entry' bytes hreader =>
      cases hreader
      cases hplain
      exact .filled _ _ _ (h.goOn ⟨_, _, _, rfl⟩)

theorem clientCmdline_twins (h : s.Agrees s') (live live' : Guest.CommandLine) :
    Twins id (fun recorded _ => recorded) (s.clientCmdline live) (s'.clientCmdline live') := by
  have htemplate : (⟨s'.running, .clientCmdline 0⟩ : Entry) = ⟨s.running, .clientCmdline 0⟩ := by
    rw [h.running]
  rw [clientCmdline, clientCmdline, ← h.isClosed, ← h.channel, htemplate]
  split
  · exact .failed rfl h
  · obtain ⟨rest, offset, resolved, hs⟩ := h.replays
    obtain ⟨read, count, hreads⟩ :=
      Reader.resolveCmdline_reads rest offset resolved ⟨s.running, .clientCmdline 0⟩
    rw [hs]
    dsimp only
    generalize (Reader.plain rest offset resolved).resolveCmdline ⟨s.running, .clientCmdline 0⟩ =
      taken at hreads
    obtain ⟨result, r⟩ := taken
    obtain ⟨rest', offset', resolved', _, hplain⟩ := hreads
    cases hplain
    rcases result with e | ⟨entry, text⟩
    · exact .failed rfl (h.goOn ⟨_, _, _, rfl⟩)
    · exact .done rfl (h.goOn ⟨_, _, _, rfl⟩)

theorem identify_twins (h : s.Agrees s') (child : ThreadId) (recorded kernel kernel' : KernelTid) :
    Twins id (fun shown _ => shown) (s.identify child recorded kernel)
      (s'.identify child recorded kernel') := by
  rw [identify, identify]
  rcases h.identities.create child recorded kernel kernel' with
    ⟨e, hcreate, hcreate'⟩ | ⟨table, table', hcreate, hcreate', htables⟩
  · rw [hcreate, hcreate']
    exact .failed rfl h
  · rw [hcreate, hcreate']
    exact .done rfl (h.reidentify htables)

theorem threadCreate_twins (h : s.Agrees s') (parent child : ThreadId) (kernel kernel' : KernelTid) :
    Twins id (fun shown _ => shown) (s.threadCreate parent child kernel)
      (s'.threadCreate parent child kernel') := by
  have hbody : (Body.threadCreate child kernel).SettlesAs (.threadCreate child kernel') :=
    ⟨rfl, fun recorded => by cases recorded <;> rfl⟩
  rw [threadCreate, threadCreate, h.replays.isActive, h.replays_right.isActive,
    if_neg Bool.false_ne_true, if_neg Bool.false_ne_true, ← h.checkRunning, ← h.running]
  cases s.checkRunning parent with
  | error e => exact .failed rfl h
  | ok =>
    dsimp only
    rcases h.process_cases hbody s.running with ⟨e, next, next', hprocess, hprocess', hagrees⟩ |
      ⟨recorded, entry, next, next', hprocess, hprocess', hsettle, hagrees⟩
    · rw [hprocess, hprocess']
      exact .failed rfl hagrees
    · obtain ⟨_, _, _, rfl, hbody⟩ := Entry.settle_ok_cases hsettle
      cases hbody with
      | threadCreate _ child' _ shown =>
        rw [hprocess, hprocess']
        dsimp only
        rw [hagrees.replays.mode_eq, hagrees.replays_right.mode_eq]
        exact identify_twins hagrees child shown kernel kernel'

theorem snapshot_twins (h : s.Agrees s') {live live' : Bytes} (hlength : live.length = live'.length) :
    Twins id (fun value _ => value) (s.snapshot live) (s'.snapshot live') := by
  have hreplay : Mode.replay.isReplay = true := rfl
  rw [snapshot, snapshot, ← h.isClosed, h.replays.isActive, h.replays_right.isActive,
    h.replays.mode_eq, h.replays_right.mode_eq, hreplay, ← h.checkLength hlength, ← h.running,
    ← hlength]
  split
  · exact .failed rfl h
  · rw [if_neg Bool.false_ne_true, if_neg Bool.false_ne_true]
    cases s.verifier.checkLength live with
    | error e => exact .failed rfl h
    | ok =>
      rw [Entry.snapshot, if_pos rfl]
      dsimp only
      rw [if_pos rfl]
      generalize Verifier.scratch live.length = buffer
      have hfills := h.processData (.refl (.snapshot (UInt64.ofNat live.length))) s.running
        (rfl : buffer.length = buffer.length)
      generalize s.processData ⟨s.running, .snapshot (UInt64.ofNat live.length)⟩ buffer = filled,
        s'.processData ⟨s.running, .snapshot (UInt64.ofNat live.length)⟩ buffer = filled' at hfills
      cases hfills with
      | failed e _ _ hagrees => exact .failed rfl hagrees
      | filled entry entry' recorded hagrees =>
        dsimp only
        rw [hagrees.replays.mode_eq, hagrees.replays_right.mode_eq, hreplay, if_pos rfl, if_pos rfl]
        exact .done rfl (hagrees.compare live live' recorded)

theorem initGuestState_twins (h : s.Agrees s') {registers registers' : Bytes}
    (hlength : registers.length = registers'.length) :
    Twins id (fun value _ => value) (s.initGuestState registers) (s'.initGuestState registers') := by
  rw [initGuestState, initGuestState, h.replays.isActive, h.replays_right.isActive,
    if_neg Bool.false_ne_true, if_neg Bool.false_ne_true]
  exact snapshot_twins h hlength

theorem syscallArgs_twins (h : s.Agrees s') (thread : ThreadId) (sysno : UInt32)
    {registers registers' : Bytes} (hlength : registers.length = registers'.length) :
    Twins id (fun value _ => value) (s.syscallArgs thread sysno registers)
      (s'.syscallArgs thread sysno registers') := by
  rw [syscallArgs, syscallArgs, h.replays.isActive, h.replays_right.isActive,
    if_neg Bool.false_ne_true, if_neg Bool.false_ne_true, ← h.checkRunning, Entry.syscallArgs]
  cases s.checkRunning thread with
  | error e => exact .failed rfl h
  | ok =>
    dsimp only
    rcases h.process_cases (.refl (.syscallArgs thread sysno)) thread with
      ⟨e, next, next', hprocess, hprocess', hagrees⟩ |
      ⟨recorded, entry, next, next', hprocess, hprocess', hsettle, hagrees⟩
    · rw [hprocess, hprocess']
      exact .failed rfl hagrees
    · rw [hprocess, hprocess']
      exact snapshot_twins hagrees hlength

theorem syscallRet_twins (h : s.Agrees s') (value value' : UInt64) :
    Twins Prod.snd (fun _ given => given.1) (s.syscallRet value) (s'.syscallRet value') := by
  have hbody : (Body.syscallRet value).SettlesAs (.syscallRet value') :=
    ⟨rfl, fun recorded => by cases recorded <;> rfl⟩
  rw [syscallRet, syscallRet, h.replays.isActive, h.replays_right.isActive,
    if_neg Bool.false_ne_true, if_neg Bool.false_ne_true, ← h.running, Entry.syscallRet,
    Entry.syscallRet]
  rcases h.process_cases hbody s.running with ⟨e, next, next', hprocess, hprocess', hagrees⟩ |
    ⟨recorded, entry, next, next', hprocess, hprocess', hsettle, hagrees⟩
  · rw [hprocess, hprocess']
    exact .failed rfl hagrees
  · obtain ⟨_, _, _, rfl, hbody⟩ := Entry.settle_ok_cases hsettle
    cases hbody with
    | syscallRet =>
      rw [hprocess, hprocess']
      exact .done rfl hagrees

theorem processRegions_twins (h : s.Agrees s') {regions regions' : List Guest.Memory}
    (hlengths : List.Forall₂ (fun r r' => r.bytes.length = r'.bytes.length) regions regions') :
    Twins Prod.snd (fun _ given => given.1.map (·.bytes)) (s.processRegions regions)
      (s'.processRegions regions') := by
  induction hlengths generalizing s s' with
  | nil => exact .done rfl h
  | @cons region region' rest rest' hlength _ ih =>
    have hbody :=
      Body.data_checksAs (UInt64.ofNat region.bytes.length) region.base region'.base
    have hfills := h.processData hbody s.running hlength
    rw [processRegions, processRegions, ← h.running, Entry.data, Entry.data, ← hlength]
    generalize s.processData ⟨s.running, .data (UInt64.ofNat region.bytes.length) region.base⟩
        region.bytes = filled,
      s'.processData ⟨s.running, .data (UInt64.ofNat region.bytes.length) region'.base⟩
        region'.bytes = filled' at hfills
    cases hfills with
    | failed e _ _ hagrees => exact .failed rfl hagrees
    | @filled _ _ recorded next next' hagrees =>
      have hrest := ih hagrees
      dsimp only
      generalize next.processRegions rest = others, next'.processRegions rest' = others' at hrest
      cases hrest with
      | failed reason hlast => exact .failed reason hlast
      | done same hlast => exact .done (congrArg (recorded :: ·) same) hlast

theorem syscallMem_twins (h : s.Agrees s') {regions regions' : List Guest.Memory}
    (hlengths : List.Forall₂ (fun r r' => r.bytes.length = r'.bytes.length) regions regions') :
    Twins Prod.snd (fun _ given => given.1.map (·.bytes)) (s.syscallMem regions)
      (s'.syscallMem regions') := by
  rw [syscallMem, syscallMem, h.replays.isActive, h.replays_right.isActive,
    if_neg Bool.false_ne_true, if_neg Bool.false_ne_true]
  exact processRegions_twins h hlengths

theorem dispatchCounter_twins (h : s.Agrees s') (counter counter' : UInt64) (before : Bool) :
    Twins id (fun value _ => value) (s.dispatchCounter counter before)
      (s'.dispatchCounter counter' before) := by
  have hbody : (Body.dispatchCounter before counter).SettlesAs (.dispatchCounter before counter') :=
    ⟨rfl, fun recorded => by cases recorded <;> rfl⟩
  rw [dispatchCounter, dispatchCounter, h.replays.isActive, h.replays_right.isActive,
    if_neg Bool.false_ne_true, if_neg Bool.false_ne_true, ← h.running]
  rcases h.process_cases hbody s.running with ⟨e, next, next', hprocess, hprocess', hagrees⟩ |
    ⟨recorded, entry, next, next', hprocess, hprocess', hsettle, hagrees⟩
  · rw [hprocess, hprocess']
    exact .failed rfl hagrees
  · obtain ⟨_, _, _, rfl, hbody⟩ := Entry.settle_ok_cases hsettle
    cases hbody with
    | dispatchCounter _ _ recorded =>
      rw [hprocess, hprocess']
      exact .done rfl (hagrees.checkCounter before counter counter' recorded)

theorem initMemLayout_twins (h : s.Agrees s') (vstart stackTop vstart' stackTop' : UInt64) :
    Twins (fun given : UInt64 × UInt64 × Session => given.2.2) (fun _ given => (given.1, given.2.1))
      (s.initMemLayout vstart stackTop) (s'.initMemLayout vstart' stackTop') := by
  have hbody : (Body.initMemLayout vstart stackTop).SettlesAs (.initMemLayout vstart' stackTop') :=
    ⟨rfl, fun recorded => by cases recorded <;> rfl⟩
  rw [initMemLayout, initMemLayout, h.replays.isActive, h.replays_right.isActive,
    if_neg Bool.false_ne_true, if_neg Bool.false_ne_true, ← h.running]
  rcases h.process_cases hbody s.running with ⟨e, next, next', hprocess, hprocess', hagrees⟩ |
    ⟨recorded, entry, next, next', hprocess, hprocess', hsettle, hagrees⟩
  · rw [hprocess, hprocess']
    exact .failed rfl hagrees
  · obtain ⟨_, _, _, rfl, hbody⟩ := Entry.settle_ok_cases hsettle
    cases hbody with
    | initMemLayout _ _ recordedStart recordedTop =>
      rw [hprocess, hprocess']
      dsimp only
      cases checkLayout recordedStart recordedTop with
      | error e => exact .failed rfl hagrees
      | ok => exact .done rfl hagrees

theorem processStack_twins (h : s.Agrees s') (addr : UInt64) (size : UInt32)
    {memory memory' : Guest.Memory} (hrange : memory.SameRange memory') :
    Twins Prod.snd (fun _ given => given.1.read? addr size.toNat) (s.processStack addr size memory)
      (s'.processStack addr size memory') := by
  rw [processStack, processStack]
  cases hread : memory.read? addr size.toNat with
  | none =>
    have hread' : memory'.read? addr size.toNat = none := by
      rw [Guest.Memory.read?, Option.map_eq_none_iff] at hread ⊢
      rw [← hrange.offset?, hread]
    rw [hread']
    exact .failed rfl h
  | some bytes =>
    obtain ⟨start, hoffset, _⟩ := Guest.Memory.read?_eq_some hread
    have hoffset' : memory'.offset? addr size.toNat = some start := by
      rw [← hrange.offset?, hoffset]
    obtain ⟨bytes', hread'⟩ : ∃ bytes', memory'.read? addr size.toNat = some bytes' := by
      rw [Guest.Memory.read?, hoffset']
      exact ⟨_, rfl⟩
    have hlength := Guest.Memory.length_of_read? hread
    have hfills := h.processData (.refl (.data (UInt64.ofNat size.toNat) addr)) s.running
      (hlength.trans (Guest.Memory.length_of_read? hread').symm)
    rw [hread']
    dsimp only
    rw [← h.running, Entry.data]
    rcases hprocess : s.processData ⟨s.running, .data (UInt64.ofNat size.toNat) addr⟩ bytes
      with ⟨result, filled, next⟩
    rcases hprocess' : s'.processData ⟨s.running, .data (UInt64.ofNat size.toNat) addr⟩ bytes'
      with ⟨result', filled', next'⟩
    rw [hprocess, hprocess'] at hfills
    cases hfills with
    | failed e _ _ hagrees => exact .failed rfl hagrees
    | filled _ _ _ hagrees =>
      obtain ⟨_, _, hfilled, _⟩ := processData_takes h.replays hprocess
      have hsize : filled.length = size.toNat := hfilled.trans hlength
      have hwritten {m : Guest.Memory} (hm : m.offset? addr size.toNat = some start) :
          (m.write addr filled).read? addr size.toNat = some filled := by
        rw [← hsize] at hm ⊢
        exact Guest.Memory.read?_write filled hm
      exact .done ((hwritten hoffset).trans (hwritten hoffset').symm) hagrees

theorem size_of_recordedImage? {stackTop auxv : UInt64} {size : UInt32} {image : Guest.StackImage}
    (h : recordedImage? stackTop size auxv = some image) :
    (image.stackEnd - image.initialSp).toNat = size.toNat := by
  rw [recordedImage?] at h
  split at h
  · rename_i hle
    cases h
    have hsp := UInt64.toNat_sub_of_le _ _ hle
    have hbelow : stackTop - size.toUInt64 ≤ stackTop := by
      rw [UInt64.le_iff_toNat_le, hsp]
      exact Nat.sub_le _ _
    have hnat := UInt64.le_iff_toNat_le.mp hle
    dsimp only
    rw [UInt64.toNat_sub_of_le _ _ hbelow, hsp, Nat.sub_sub_self hnat, UInt32.toNat_toUInt64]
  · cases h

theorem initClientStack_twins (h : s.Agrees s') (stackTop : UInt64) (image image' : Guest.StackImage)
    {memory memory' : Guest.Memory} (hrange : memory.SameRange memory') :
    Twins (fun given : Guest.StackImage × Guest.Memory × Session => given.2.2)
      (fun _ given => (given.1,
        given.2.1.read? given.1.initialSp (given.1.stackEnd - given.1.initialSp).toNat))
      (s.initClientStack stackTop image memory) (s'.initClientStack stackTop image' memory') := by
  have hbody : (Body.initClientStack 0 image.auxv).SettlesAs (.initClientStack 0 image'.auxv) :=
    ⟨rfl, fun recorded => by cases recorded <;> rfl⟩
  have hrecord : Mode.replay.isRecord = false := rfl
  have hreplay : Mode.replay.isReplay = true := rfl
  rw [initClientStack, initClientStack, h.replays.isActive, h.replays_right.isActive,
    if_neg Bool.false_ne_true, if_neg Bool.false_ne_true, h.replays.mode_eq, h.replays_right.mode_eq,
    hrecord, ← h.running]
  simp only [Bool.false_eq_true, ↓reduceIte]
  split
  · exact .failed rfl h
  · rcases h.process_cases hbody s.running with ⟨e, next, next', hprocess, hprocess', hagrees⟩ |
      ⟨recorded, entry, next, next', hprocess, hprocess', hsettle, hagrees⟩
    · rw [hprocess, hprocess']
      exact .failed rfl hagrees
    · obtain ⟨_, _, _, rfl, hbody⟩ := Entry.settle_ok_cases hsettle
      cases hbody with
      | initClientStack _ size _ auxv =>
        rw [hprocess, hprocess']
        dsimp only
        rw [hagrees.replays.mode_eq, hagrees.replays_right.mode_eq, hreplay, if_pos rfl, if_pos rfl]
        cases himage : recordedImage? stackTop size auxv with
        | none => exact .failed rfl hagrees
        | some recorded =>
          have hstack := processStack_twins hagrees recorded.initialSp size hrange
          dsimp only
          generalize next.processStack recorded.initialSp size memory = written,
            next'.processStack recorded.initialSp size memory' = written' at hstack
          cases hstack with
          | failed reason hlast => exact .failed reason hlast
          | done same hlast =>
            rw [← size_of_recordedImage? himage] at same
            exact .done (congrArg (Prod.mk recorded) same) hlast

theorem Replays.readsCounter {s : Session} (h : s.Replays) : s.readsCounter = false := by
  rw [Session.readsCounter, h.mode_eq]
  rfl

theorem timestamp_twins (h : s.Agrees s') (counter counter' : UInt64) :
    Twins id (fun value _ => value) (s.timestamp counter) (s'.timestamp counter') := by
  rw [timestamp, timestamp, h.replays.isActive, h.replays_right.isActive, h.replays.readsCounter,
    h.replays_right.readsCounter, if_neg Bool.false_ne_true, if_neg Bool.false_ne_true,
    if_neg Bool.false_ne_true, if_neg Bool.false_ne_true, ← h.running]
  rcases h.process_cases (.refl (.timestamp (0 : UInt64).toUInt32 ((0 : UInt64) >>> 32).toUInt32))
    s.running with ⟨e, next, next', hprocess, hprocess', hagrees⟩ |
    ⟨recorded, entry, next, next', hprocess, hprocess', hsettle, hagrees⟩
  · rw [hprocess, hprocess']
    exact .failed rfl hagrees
  · obtain ⟨_, _, _, rfl, hbody⟩ := Entry.settle_ok_cases hsettle
    cases hbody with
    | timestamp =>
      rw [hprocess, hprocess']
      exact .done rfl hagrees

theorem registerProbe_twins (h : s.Agrees s') (slot : ThreadId) (probe : ExitProbe) :
    Twins id (fun value _ => value) (s.registerProbe slot probe) (s'.registerProbe slot probe) := by
  rw [registerProbe, registerProbe]
  rcases h.identities.registerProbe slot probe with
    ⟨e, hregister, hregister'⟩ | ⟨table, table', hregister, hregister', htables⟩
  · rw [hregister, hregister']
    exact .failed rfl h
  · rw [hregister, hregister']
    exact .done rfl (h.reidentify htables)

/-- What is told when a replay is closed, but for how often it differed from the log. -/
theorem close_agrees (h : s.Agrees s') :
    s.close.1.undiverged = s'.close.1.undiverged ∧ s.close.2.Agrees s'.close.2 := by
  have hsummary := h.summary
  have htally (s : Session) : s.tally.undiverged = ⟨s.mode, s.channel.entries, {}⟩ := rfl
  have hfinish {s : Session} (hs : s.Replays) : s.finish = s := by
    obtain ⟨rest, offset, resolved, hs⟩ := hs
    rw [finish, hs]
  rw [close, close, hfinish h.replays, hfinish h.replays_right]
  cases htold : s.summary with
  | some told =>
    rw [htold] at hsummary
    cases htold' : s'.summary with
    | some told' =>
      rw [htold'] at hsummary
      exact ⟨Option.some.inj hsummary, h⟩
    | none =>
      rw [htold'] at hsummary
      cases hsummary
  | none =>
    rw [htold] at hsummary
    cases htold' : s'.summary with
    | some told' =>
      rw [htold'] at hsummary
      cases hsummary
    | none =>
      have hsame : s.tally.undiverged = s'.tally.undiverged := by
        rw [htally, htally, mode, mode, h.channel]
      exact ⟨hsame, h.replays, h.config, h.channel, h.running, h.schedule, h.identities, h.verifier,
        congrArg some hsame⟩

end Session

end Retrace
