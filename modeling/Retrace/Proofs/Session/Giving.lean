import Retrace.Proofs.Session.TurnEnd

namespace Retrace

open Log

/-- What a call that succeeds leaves, given the passages that it read. -/
inductive Call.Gives : Call → List Passage → Reply → Prop
  | clientCmdline (live : Guest.CommandLine) (p : Passage) :
    Gives (.clientCmdline live) [p]
      { result := .ok (.commandLine (.parse p.payload)), call := .clientCmdline live }
  | threadCreate {parent child child' : ThreadId} {kernel recorded : KernelTid} {p : Passage}
      (body : p.entry.body = .threadCreate child' recorded) :
    Gives (.threadCreate parent child kernel) [p]
      { result := .ok (.kernelTid recorded), call := .threadCreate parent child kernel }
  | syscallArgs (thread : ThreadId) (sysno : UInt32) (registers : Bytes) (p q : Passage) :
    Gives (.syscallArgs thread sysno registers) [p, q]
      { result := .ok .done, call := .syscallArgs thread sysno registers }
  | syscallRet {value recorded : UInt64} {p : Passage} (body : p.entry.body = .syscallRet recorded) :
    Gives (.syscallRet value) [p] { result := .ok .done, call := .syscallRet recorded }
  | syscallMem {regions : List Guest.Memory} {passages : List Passage}
      (length : passages.length = regions.length) :
    Gives (.syscallMem regions) passages
      { result := .ok .done
        call := .syscallMem
          (List.zipWith (fun region p => { region with bytes := p.payload }) regions passages) }
  | dispatchCounter (counter : UInt64) (before : Bool) (p : Passage) :
    Gives (.dispatchCounter counter before) [p]
      { result := .ok .done, call := .dispatchCounter counter before }
  | initMemLayout {vstart stackTop recordedStart recordedTop : UInt64} {p : Passage}
      (body : p.entry.body = .initMemLayout recordedStart recordedTop) :
    Gives (.initMemLayout vstart stackTop) [p]
      { result := .ok .done, call := .initMemLayout recordedStart recordedTop }
  | initClientStack {stackTop auxv : UInt64} {size : UInt32} {image recorded : Guest.StackImage}
      {memory : Guest.Memory} {p q : Passage} (body : p.entry.body = .initClientStack size auxv)
      (image_eq : Session.recordedImage? stackTop size auxv = some recorded) :
    Gives (.initClientStack stackTop image memory) [p, q]
      { result := .ok .done
        call := .initClientStack stackTop recorded (memory.write recorded.initialSp q.payload) }
  | initGuestState (registers : Bytes) (p : Passage) :
    Gives (.initGuestState registers) [p]
      { result := .ok .done, call := .initGuestState registers }
  | snapshot (registers : Bytes) (p : Passage) :
    Gives (.snapshot registers) [p] { result := .ok .done, call := .snapshot registers }
  | timestamp {counter : UInt64} {low high : UInt32} {p : Passage}
      (body : p.entry.body = .timestamp low high) :
    Gives (.timestamp counter) [p]
      { result := .ok (.counter ((high.toUInt64 <<< 32) ||| low.toUInt64))
        call := .timestamp counter }
  | registerProbe (slot : ThreadId) (probe : ExitProbe) :
    Gives (.registerProbe slot probe) []
      { result := .ok .done, call := .registerProbe slot probe }
  | close (told : Summary) : Gives .close [] { result := .ok (.summary told), call := .close }

namespace Session

structure Takes (s : Session) (passages : List Passage) (s' : Session) : Prop where
  unread : s.unread = Passage.join passages ++ s'.unread
  replays : s'.Replays

theorem Takes.unread_singleton {s s' : Session} {p : Passage} (h : s.Takes [p] s') :
    s.unread = p.bytes ++ s'.unread := by
  rw [h.unread, Passage.join_singleton]

theorem Takes.trans {s s' s'' : Session} {passages passages' : List Passage}
    (h : s.Takes passages s') (h' : s'.Takes passages' s'') :
    s.Takes (passages ++ passages') s'' := by
  constructor
  · rw [h.unread, h'.unread, Passage.join_append, List.append_assoc]
  · exact h'.replays

theorem takes_of_reads {s s' : Session} {p : Passage} {count : Nat}
    (h : s.channel.Reads p.bytes count s'.channel) : s.Takes [p] s' := by
  constructor
  · rw [Passage.join_singleton]
    exact unread_of_reads h
  · obtain ⟨r, r', _, hs', rest, offset, resolved, _, rfl⟩ := h
    exact ⟨_, _, _, hs'⟩

theorem Takes.congr {s s' s'' : Session} {passages : List Passage} (h : s.Takes passages s')
    (hchannel : s''.channel = s'.channel) : s.Takes passages s'' := by
  have hunread : s''.unread = s'.unread := by
    rw [Session.unread, Session.unread, hchannel]
  constructor
  · rw [hunread]
    exact h.unread
  · obtain ⟨rest, offset, resolved, hs⟩ := h.replays
    exact ⟨rest, offset, resolved, hchannel.trans hs⟩

theorem process_takes {s s' : Session} (h : s.Replays) {template entry : Entry}
    (hok : s.process template = (.ok entry, s')) :
    ∃ p : Passage, s.Takes [p] s' ∧ template.settle p.entry = .ok entry := by
  obtain ⟨read, count, hreads, hspelled⟩ := process_reads h template
  rw [hok] at hreads hspelled
  obtain ⟨p, rfl, _, hsettle⟩ := hspelled entry rfl
  exact ⟨p, takes_of_reads hreads.channel, hsettle⟩

theorem processData_takes {s s' : Session} (h : s.Replays) {template entry : Entry}
    {buffer filled : Bytes} (hok : s.processData template buffer = (.ok entry, filled, s')) :
    ∃ p : Passage, p.payload = filled ∧ filled.length = buffer.length ∧
      template.settle p.entry = .ok entry ∧ s.Takes [p] s' := by
  obtain ⟨rest, offset, resolved, hs⟩ := h
  rw [processData] at hok
  split at hok
  · cases hok
  · rw [hs, Channel.processData] at hok
    dsimp only at hok
    split at hok <;> rename_i hresolve
    · cases hok
      obtain ⟨p, hpayload, hlength, _, hreads, hsettle⟩ := Reader.resolveData_ok hresolve
      have htaken : s.channel.Reads p.bytes 1 (.replay _) := ⟨_, _, hs, rfl, hreads⟩
      exact ⟨p, hpayload, hlength, hsettle, takes_of_reads htaken⟩
    · cases hok

theorem clientCmdline_takes {s s' : Session} (h : s.Replays) {live recorded : Guest.CommandLine}
    (hok : s.clientCmdline live = (.ok recorded, s')) :
    ∃ p : Passage, recorded = .parse p.payload ∧ s.Takes [p] s' := by
  obtain ⟨rest, offset, resolved, hs⟩ := h
  rw [clientCmdline] at hok
  split at hok
  · cases hok
  · rw [hs] at hok
    dsimp only at hok
    split at hok <;> rename_i hresolve
    · cases hok
      obtain ⟨p, rfl, _, _, hreads, _⟩ := Reader.resolveCmdline_ok hresolve
      have htaken : s.channel.Reads p.bytes 1 (.replay _) := ⟨_, _, hs, rfl, hreads⟩
      exact ⟨p, rfl, takes_of_reads htaken⟩
    · cases hok

theorem threadCreate_takes {s s' : Session} (h : s.Replays) {parent child : ThreadId}
    {kernel shown : KernelTid} (hok : s.threadCreate parent child kernel = (.ok shown, s')) :
    ∃ (p : Passage) (child' : ThreadId), p.entry.body = .threadCreate child' shown ∧
      s.Takes [p] s' := by
  rw [threadCreate, h.isActive, if_neg Bool.false_ne_true] at hok
  split at hok
  · cases hok
  · split at hok <;> rename_i hprocess
    · cases hok
    · obtain ⟨p, htakes, hsettle⟩ := process_takes h hprocess
      obtain ⟨_, _, hp, rfl, hbody⟩ := Entry.settle_ok_cases hsettle
      cases hbody with
      | threadCreate _ child' _ recorded =>
        rw [htakes.replays.mode_eq] at hok
        dsimp only at hok
        rw [identify] at hok
        split at hok
        · cases hok
          refine ⟨p, child', ?_, htakes.congr rfl⟩
          rw [hp]
        · cases hok

theorem snapshot_takes {s s' : Session} (h : s.Replays) {live : Bytes}
    (hok : s.snapshot live = (.ok (), s')) : ∃ p : Passage, s.Takes [p] s' := by
  have hbuffer : (if Mode.replay.isReplay then Verifier.scratch live.length else live) =
      Verifier.scratch live.length := rfl
  rw [snapshot, h.isActive, h.mode_eq, hbuffer] at hok
  split at hok
  · cases hok
  · rw [if_neg Bool.false_ne_true] at hok
    split at hok
    · cases hok
    · dsimp only at hok
      split at hok <;> rename_i hprocess
      · cases hok
      · obtain ⟨p, _, _, _, htakes⟩ := processData_takes h hprocess
        cases hok
        refine ⟨p, htakes.congr ?_⟩
        split
        · rfl
        · rfl

theorem syscallArgs_takes {s s' : Session} (h : s.Replays) {thread : ThreadId} {sysno : UInt32}
    {registers : Bytes} (hok : s.syscallArgs thread sysno registers = (.ok (), s')) :
    ∃ p q : Passage, s.Takes [p, q] s' := by
  rw [syscallArgs, h.isActive, if_neg Bool.false_ne_true] at hok
  split at hok
  · cases hok
  · split at hok <;> rename_i hprocess
    · cases hok
    · obtain ⟨p, htakes, _⟩ := process_takes h hprocess
      obtain ⟨q, htakes'⟩ := snapshot_takes htakes.replays hok
      exact ⟨p, q, htakes.trans htakes'⟩

theorem syscallRet_takes {s s' : Session} (h : s.Replays) {value recorded : UInt64}
    (hok : s.syscallRet value = (.ok (), recorded, s')) :
    ∃ p : Passage, p.entry.body = .syscallRet recorded ∧ s.Takes [p] s' := by
  rw [syscallRet, h.isActive, if_neg Bool.false_ne_true] at hok
  rcases hprocess : s.process (.syscallRet s.running value) with ⟨e | entry, s''⟩
  · rw [hprocess] at hok
    cases hok
  · rw [hprocess] at hok
    obtain ⟨p, htakes, hsettle⟩ := process_takes h hprocess
    obtain ⟨_, _, hp, rfl, hbody⟩ := Entry.settle_ok_cases hsettle
    cases hbody with
    | syscallRet =>
      cases hok
      refine ⟨p, ?_, htakes⟩
      rw [hp]

theorem processRegions_takes {s s' : Session} (h : s.Replays) {regions filled : List Guest.Memory}
    (hok : s.processRegions regions = (.ok (), filled, s')) :
    ∃ passages : List Passage, passages.length = regions.length ∧
      filled = List.zipWith (fun region p => { region with bytes := p.payload }) regions passages ∧
      s.Takes passages s' := by
  induction regions generalizing s filled with
  | nil =>
    cases hok
    exact ⟨[], rfl, rfl, rfl, h⟩
  | cons region rest ih =>
    rw [processRegions] at hok
    rcases hprocess : s.processData (.data s.running region.bytes.length region.base) region.bytes
      with ⟨e | entry, bytes, s''⟩
    · rw [hprocess] at hok
      cases hok
    · rw [hprocess] at hok
      obtain ⟨p, rfl, _, _, htakes⟩ := processData_takes h hprocess
      rcases hrest : s''.processRegions rest with ⟨result, others, last⟩
      dsimp only at hok
      rw [hrest] at hok
      cases hok
      obtain ⟨passages, hlength, rfl, htakes'⟩ := ih htakes.replays hrest
      exact ⟨p :: passages, congrArg (· + 1) hlength, rfl, htakes.trans htakes'⟩

theorem dispatchCounter_takes {s s' : Session} (h : s.Replays) {counter : UInt64} {before : Bool}
    (hok : s.dispatchCounter counter before = (.ok (), s')) : ∃ p : Passage, s.Takes [p] s' := by
  rw [dispatchCounter, h.isActive, if_neg Bool.false_ne_true] at hok
  rcases hprocess : s.process ⟨s.running, .dispatchCounter before counter⟩ with ⟨e | entry, s''⟩
  · rw [hprocess] at hok
    cases hok
  · rw [hprocess] at hok
    obtain ⟨p, htakes, hsettle⟩ := process_takes h hprocess
    obtain ⟨_, _, hp, rfl, hbody⟩ := Entry.settle_ok_cases hsettle
    cases hbody with
    | dispatchCounter _ _ recorded =>
      cases hok
      refine ⟨p, htakes.congr ?_⟩
      rw [checkCounter]
      split
      · rfl
      · rfl

theorem initMemLayout_takes {s s' : Session} (h : s.Replays)
    {vstart stackTop recordedStart recordedTop : UInt64}
    (hok : s.initMemLayout vstart stackTop = (.ok (), recordedStart, recordedTop, s')) :
    ∃ p : Passage, p.entry.body = .initMemLayout recordedStart recordedTop ∧ s.Takes [p] s' := by
  rw [initMemLayout, h.isActive, if_neg Bool.false_ne_true] at hok
  rcases hprocess : s.process ⟨s.running, .initMemLayout vstart stackTop⟩ with ⟨e | entry, s''⟩
  · rw [hprocess] at hok
    cases hok
  · rw [hprocess] at hok
    obtain ⟨p, htakes, hsettle⟩ := process_takes h hprocess
    obtain ⟨_, _, hp, rfl, hbody⟩ := Entry.settle_ok_cases hsettle
    cases hbody with
    | initMemLayout =>
      dsimp only at hok
      split at hok
      · cases hok
      · cases hok
        refine ⟨p, ?_, htakes⟩
        rw [hp]

theorem processStack_takes {s s' : Session} (h : s.Replays) {addr : UInt64} {size : UInt32}
    {memory written : Guest.Memory}
    (hok : s.processStack addr size memory = (.ok (), written, s')) :
    ∃ p : Passage, written = memory.write addr p.payload ∧ s.Takes [p] s' := by
  rw [processStack] at hok
  split at hok
  · cases hok
  · split at hok <;> rename_i hprocess
    · cases hok
    · obtain ⟨p, rfl, _, _, htakes⟩ := processData_takes h hprocess
      cases hok
      exact ⟨p, rfl, htakes⟩

theorem initClientStack_takes {s s' : Session} (h : s.Replays) {stackTop : UInt64}
    {image recorded : Guest.StackImage} {memory written : Guest.Memory}
    (hok : s.initClientStack stackTop image memory = (.ok (), recorded, written, s')) :
    ∃ (p q : Passage) (size : UInt32) (auxv : UInt64), p.entry.body = .initClientStack size auxv ∧
      recordedImage? stackTop size auxv = some recorded ∧
      written = memory.write recorded.initialSp q.payload ∧ s.Takes [p, q] s' := by
  have hrecord : Mode.replay.isRecord = false := rfl
  have hreplay : Mode.replay.isReplay = true := rfl
  rw [initClientStack, h.isActive, if_neg Bool.false_ne_true, h.mode_eq, hrecord] at hok
  simp only [Bool.false_eq_true, ↓reduceIte] at hok
  split at hok
  · cases hok
  · rcases hprocess : s.process ⟨s.running, .initClientStack 0 image.auxv⟩ with ⟨e | entry, s''⟩
    · rw [hprocess] at hok
      cases hok
    · rw [hprocess] at hok
      obtain ⟨p, htakes, hsettle⟩ := process_takes h hprocess
      obtain ⟨_, _, hp, rfl, hbody⟩ := Entry.settle_ok_cases hsettle
      cases hbody with
      | initClientStack _ size _ auxv =>
        dsimp only at hok
        rw [htakes.replays.mode_eq, hreplay] at hok
        simp only [↓reduceIte] at hok
        split at hok <;> rename_i himage
        · cases hok
        · rename_i image'
          rcases hstack : s''.processStack image'.initialSp size memory with ⟨result, memory', last⟩
          rw [hstack] at hok
          cases hok
          obtain ⟨q, rfl, htakes'⟩ := processStack_takes htakes.replays hstack
          refine ⟨p, q, size, auxv, ?_, himage, rfl, htakes.trans htakes'⟩
          rw [hp]

theorem timestamp_takes {s s' : Session} (h : s.Replays) {counter value : UInt64}
    (hok : s.timestamp counter = (.ok value, s')) :
    ∃ (p : Passage) (low high : UInt32), p.entry.body = .timestamp low high ∧
      value = (high.toUInt64 <<< 32) ||| low.toUInt64 ∧ s.Takes [p] s' := by
  rw [timestamp, h.isActive, if_neg Bool.false_ne_true] at hok
  generalize (if s.readsCounter then counter else 0) = live at hok
  rcases hprocess : s.process ⟨s.running, .timestamp live.toUInt32 (live >>> 32).toUInt32⟩
    with ⟨e | entry, s''⟩
  · rw [hprocess] at hok
    cases hok
  · rw [hprocess] at hok
    obtain ⟨p, htakes, hsettle⟩ := process_takes h hprocess
    obtain ⟨_, _, hp, rfl, hbody⟩ := Entry.settle_ok_cases hsettle
    cases hbody with
    | timestamp _ _ low high =>
      cases hok
      refine ⟨p, low, high, ?_, rfl, htakes⟩
      rw [hp]

/-- Whatever a call that succeeds gives was read from the log: it stands in the passages that the call
took. -/
theorem perform_gives {s : Session} (h : s.Replays) {call : Call}
    (hok : (s.perform call).1.result.isOk) :
    ∃ passages, s.Takes passages (s.perform call).2 ∧ call.Gives passages (s.perform call).1 := by
  cases call with
  | clientCmdline live =>
    rcases hcall : s.clientCmdline live with ⟨e | recorded, s'⟩
    · rw [perform, hcall] at hok
      cases hok
    · obtain ⟨p, rfl, htakes⟩ := clientCmdline_takes h hcall
      rw [perform, hcall]
      exact ⟨[p], htakes, .clientCmdline live p⟩
  | threadCreate parent child kernel =>
    rcases hcall : s.threadCreate parent child kernel with ⟨e | shown, s'⟩
    · rw [perform, hcall] at hok
      cases hok
    · obtain ⟨p, child', hbody, htakes⟩ := threadCreate_takes h hcall
      rw [perform, hcall]
      exact ⟨[p], htakes, .threadCreate hbody⟩
  | syscallArgs thread sysno registers =>
    rcases hcall : s.syscallArgs thread sysno registers with ⟨e | _, s'⟩
    · rw [perform, hcall] at hok
      cases hok
    · obtain ⟨p, q, htakes⟩ := syscallArgs_takes h hcall
      rw [perform, hcall]
      exact ⟨[p, q], htakes, .syscallArgs thread sysno registers p q⟩
  | syscallRet value =>
    rcases hcall : s.syscallRet value with ⟨e | _, recorded, s'⟩
    · rw [perform, hcall] at hok
      cases hok
    · obtain ⟨p, hbody, htakes⟩ := syscallRet_takes h hcall
      rw [perform, hcall]
      exact ⟨[p], htakes, .syscallRet hbody⟩
  | syscallMem regions =>
    rw [perform, syscallMem_of_active h.isActive] at hok ⊢
    rcases hcall : s.processRegions regions with ⟨e | _, filled, s'⟩
    · rw [hcall] at hok
      cases hok
    · obtain ⟨passages, hlength, rfl, htakes⟩ := processRegions_takes h hcall
      exact ⟨passages, htakes, .syscallMem hlength⟩
  | dispatchCounter counter before =>
    rcases hcall : s.dispatchCounter counter before with ⟨e | _, s'⟩
    · rw [perform, hcall] at hok
      cases hok
    · obtain ⟨p, htakes⟩ := dispatchCounter_takes h hcall
      rw [perform, hcall]
      exact ⟨[p], htakes, .dispatchCounter counter before p⟩
  | initMemLayout vstart stackTop =>
    rcases hcall : s.initMemLayout vstart stackTop with ⟨e | _, recordedStart, recordedTop, s'⟩
    · rw [perform, hcall] at hok
      cases hok
    · obtain ⟨p, hbody, htakes⟩ := initMemLayout_takes h hcall
      rw [perform, hcall]
      exact ⟨[p], htakes, .initMemLayout hbody⟩
  | initClientStack stackTop image memory =>
    rcases hcall : s.initClientStack stackTop image memory with ⟨e | _, recorded, written, s'⟩
    · rw [perform, hcall] at hok
      cases hok
    · obtain ⟨p, q, size, auxv, hbody, himage, rfl, htakes⟩ := initClientStack_takes h hcall
      rw [perform, hcall]
      exact ⟨[p, q], htakes, .initClientStack hbody himage⟩
  | initGuestState registers =>
    rw [perform, initGuestState_of_active h.isActive] at hok ⊢
    rcases hcall : s.snapshot registers with ⟨e | _, s'⟩
    · rw [hcall] at hok
      cases hok
    · obtain ⟨p, htakes⟩ := snapshot_takes h hcall
      exact ⟨[p], htakes, .initGuestState registers p⟩
  | snapshot registers =>
    rcases hcall : s.snapshot registers with ⟨e | _, s'⟩
    · rw [perform, hcall] at hok
      cases hok
    · obtain ⟨p, htakes⟩ := snapshot_takes h hcall
      rw [perform, hcall]
      exact ⟨[p], htakes, .snapshot registers p⟩
  | timestamp counter =>
    have hlive : s.readsCounter = false := by
      rw [readsCounter, h.mode_eq]
      rfl
    rcases hcall : s.timestamp counter with ⟨e | value, s'⟩
    · rw [perform, hcall] at hok
      cases hok
    · obtain ⟨p, low, high, hbody, rfl, htakes⟩ := timestamp_takes h hcall
      rw [perform, hcall, hlive]
      exact ⟨[p], htakes, .timestamp hbody⟩
  | registerProbe slot probe =>
    rcases hcall : s.registerProbe slot probe with ⟨e | _, s'⟩
    · rw [perform, hcall] at hok
      cases hok
    · have hsame : s'.channel = s.channel := by
        rw [registerProbe] at hcall
        split at hcall
        · cases hcall
          rfl
        · cases hcall
      rw [perform, hcall]
      exact ⟨[], Takes.congr ⟨rfl, h⟩ hsame, .registerProbe slot probe⟩
  | close =>
    have hreads := close_reads h
    exact ⟨[], ⟨unread_of_reads hreads.channel, hreads.replays⟩, .close _⟩

end Session

end Retrace
