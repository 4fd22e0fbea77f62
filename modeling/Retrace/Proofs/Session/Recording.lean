import Retrace.Proofs.Log.Appending
import Retrace.Proofs.Session.Asking

namespace Retrace

open Log

/-- The passages that a call logs while a thread runs, where it succeeds. -/
inductive Call.Logs (running : ThreadId) (layout : Guest.RegisterLayout) :
    Call → List Passage → Prop
  | clientCmdline {live : Guest.CommandLine} {p : Passage}
      (limit : (Utf8.encodeText live.joined).length < cmdlineLimit)
      (logged : p.logged =
        (⟨running, .clientCmdline (UInt32.ofNat (Utf8.encodeText live.joined).length)⟩,
          Utf8.encodeText live.joined)) :
      Logs running layout (.clientCmdline live) [p]
  | threadCreate {child : ThreadId} {kernel : KernelTid} {p : Passage}
      (logged : p.logged = (⟨running, .threadCreate child kernel⟩, [])) :
      Logs running layout (.threadCreate running child kernel) [p]
  | syscallArgs {sysno : UInt32} {registers : Bytes} {p q : Passage}
      (enough : layout.minLength ≤ registers.length)
      (logged : p.logged = (.syscallArgs running sysno, []))
      (image : q.logged = (.snapshot running registers.length, registers)) :
      Logs running layout (.syscallArgs running sysno registers) [p, q]
  | syscallRet {value : UInt64} {p : Passage}
      (logged : p.logged = (.syscallRet running value, [])) :
      Logs running layout (.syscallRet value) [p]
  | syscallMem {regions : List Guest.Memory} {passages : List Passage}
      (logged : List.Forall₂ (fun region p =>
        p.logged = (.data running region.bytes.length region.base, region.bytes)) regions passages) :
      Logs running layout (.syscallMem regions) passages
  | dispatchCounter {counter : UInt64} {before : Bool} {p : Passage}
      (logged : p.logged = (⟨running, .dispatchCounter before counter⟩, [])) :
      Logs running layout (.dispatchCounter counter before) [p]
  | initMemLayout {vstart stackTop : UInt64} {p : Passage}
      (aligned : Session.checkLayout vstart stackTop = .ok ())
      (logged : p.logged = (⟨running, .initMemLayout vstart stackTop⟩, [])) :
      Logs running layout (.initMemLayout vstart stackTop) [p]
  | initClientStack {stackTop : UInt64} {image : Guest.StackImage} {memory : Guest.Memory}
      {size : UInt32} {bytes : Bytes} {p q : Passage} (top : stackTop ≠ 0)
      (size_eq : Session.stackSize? stackTop image.initialSp = some size)
      (read : memory.read? image.initialSp size.toNat = some bytes)
      (logged : p.logged = (⟨running, .initClientStack size image.auxv⟩, []))
      (stack : q.logged = (.data running size.toNat image.initialSp, bytes)) :
      Logs running layout (.initClientStack stackTop image memory) [p, q]
  | initGuestState {registers : Bytes} {p : Passage}
      (enough : layout.minLength ≤ registers.length)
      (image : p.logged = (.snapshot running registers.length, registers)) :
      Logs running layout (.initGuestState registers) [p]
  | snapshot {registers : Bytes} {p : Passage} (enough : layout.minLength ≤ registers.length)
      (image : p.logged = (.snapshot running registers.length, registers)) :
      Logs running layout (.snapshot registers) [p]
  | timestamp {counter : UInt64} {p : Passage}
      (logged : p.logged =
        (⟨running, .timestamp counter.toUInt32 (counter >>> 32).toUInt32⟩, [])) :
      Logs running layout (.timestamp counter) [p]
  | registerProbe {slot : ThreadId} {probe : ExitProbe} (valid : slot.isValid)
      (inTable : slot.index < slotLimit) :
      Logs running layout (.registerProbe slot probe) []

def Channel.Writes (c : Channel) (passages : List Passage) (c' : Channel) : Prop :=
  ∃ w w', c = .record w ∧ c' = .record w' ∧
    w'.sink.held = w.sink.held ++ Passage.join passages ∧
    w'.appended = w.appended + passages.length

theorem Channel.Writes.trans {c c' c'' : Channel} {passages passages' : List Passage}
    (h : c.Writes passages c') (h' : c'.Writes passages' c'') :
    c.Writes (passages ++ passages') c'' := by
  obtain ⟨w, w', hc, hc', hheld, happended⟩ := h
  obtain ⟨_, w'', hmid, hc'', hheld', happended'⟩ := h'
  cases hc'.symm.trans hmid
  refine ⟨w, w'', hc, hc'', ?_, ?_⟩
  · rw [hheld', hheld, Passage.join_append, List.append_assoc]
  · rw [happended', happended, List.length_append, Nat.add_assoc]

theorem Channel.Writes.entries_eq {c c' : Channel} {passages : List Passage} (h : c.Writes passages c') :
    c'.entries = c.entries + passages.length := by
  obtain ⟨w, w', rfl, rfl, _, happended⟩ := h
  exact happended

namespace Session

def Records (s : Session) : Prop := ∃ w, s.channel = .record w

/-- A call wrote some passages, and let nobody else run. -/
structure Writes (s : Session) (passages : List Passage) (s' : Session) : Prop where
  channel : s.channel.Writes passages s'.channel
  running : s'.running = s.running
  schedule : s'.schedule = s.schedule
  layout : s'.verifier.layout = s.verifier.layout

theorem Writes.records {s s' : Session} {passages : List Passage} (h : s.Writes passages s') :
    s'.Records := by
  obtain ⟨_, w', _, hs', _⟩ := h.channel
  exact ⟨w', hs'⟩

theorem Writes.trans {s s' s'' : Session} {passages passages' : List Passage}
    (h : s.Writes passages s') (h' : s'.Writes passages' s'') :
    s.Writes (passages ++ passages') s'' :=
  ⟨h.channel.trans h'.channel, h'.running.trans h.running, h'.schedule.trans h.schedule,
    h'.layout.trans h.layout⟩

theorem Records.writes_nil {s : Session} (h : s.Records) : s.Writes [] s := by
  obtain ⟨w, hs⟩ := h
  exact ⟨⟨w, w, hs, hs, (List.append_nil _).symm, rfl⟩, rfl, rfl, rfl⟩

theorem Records.mode_eq {s : Session} (h : s.Records) : s.mode = .record := by
  obtain ⟨w, hs⟩ := h
  rw [mode, hs]
  rfl

theorem Records.isActive {s : Session} (h : s.Records) : (!s.mode.isActive) = false := by
  rw [h.mode_eq]
  rfl

theorem Records.isRecord {s : Session} (h : s.Records) : s.mode.isRecord = true := by
  rw [h.mode_eq]
  rfl

theorem Records.isReplay {s : Session} (h : s.Records) : s.mode.isReplay = false := by
  rw [h.mode_eq]
  rfl

theorem writes_of_append {s : Session} {w w' : Writer} {entry : Entry} {payload : Bytes}
    (hs : s.channel = .record w) (h : w.append entry payload = (.ok (), w')) :
    ∃ p : Passage, p.logged = (entry, payload) ∧
      s.Writes [p] { s with channel := .record w' } := by
  obtain ⟨hlen, hheld, happended⟩ := Writer.append_ok h
  refine ⟨.ofEntry entry payload hlen, rfl, ⟨w, w', hs, rfl, ?_, happended⟩, rfl, rfl, rfl⟩
  rw [hheld, Passage.join_singleton]

theorem process_writes {s s' : Session} (h : s.Records) {template entry : Entry}
    (hok : s.process template = (.ok entry, s')) :
    entry = template ∧ ∃ p : Passage, p.logged = (template, []) ∧ s.Writes [p] s' := by
  obtain ⟨w, hs⟩ := h
  rw [process] at hok
  split at hok
  · cases hok
  · rw [hs, Channel.process] at hok
    dsimp only at hok
    split at hok
    · rename_i happend
      cases hok
      exact ⟨rfl, writes_of_append hs happend⟩
    · cases hok

theorem processData_writes {s s' : Session} (h : s.Records) {template entry : Entry}
    {buffer buffer' : Bytes} (hok : s.processData template buffer = (.ok entry, buffer', s')) :
    ∃ p : Passage, p.logged = (template, buffer) ∧ s.Writes [p] s' := by
  obtain ⟨w, hs⟩ := h
  rw [processData] at hok
  split at hok
  · cases hok
  · rw [hs, Channel.processData] at hok
    dsimp only at hok
    split at hok
    · rename_i happend
      cases hok
      exact writes_of_append hs happend
    · cases hok

def Logs (s : Session) (call : Call) (s' : Session) : Prop :=
  ∃ passages, call.Logs s.running s.verifier.layout passages ∧ s.Writes passages s'

theorem clientCmdline_logs {s : Session} (h : s.Records) {live : Guest.CommandLine}
    (hok : (s.clientCmdline live).1.isOk) :
    s.Logs (.clientCmdline live) (s.clientCmdline live).2 := by
  obtain ⟨w, hs⟩ := h
  rw [clientCmdline, hs] at hok ⊢
  dsimp only at hok ⊢
  split at hok
  · cases hok
  · rename_i hopen
    rw [if_neg hopen]
    split at hok
    · cases hok
    · rename_i hlimit
      rw [if_neg hlimit]
      split at hok <;> rename_i happend
      · obtain ⟨p, hp, hwrites⟩ := writes_of_append hs happend
        exact ⟨[p], .clientCmdline (Nat.lt_of_not_le hlimit) hp, hwrites⟩
      · cases hok

theorem threadCreate_logs {s : Session} (h : s.Records) {parent child : ThreadId}
    {kernel : KernelTid} (hok : (s.threadCreate parent child kernel).1.isOk) :
    s.Logs (.threadCreate parent child kernel) (s.threadCreate parent child kernel).2 := by
  rw [threadCreate, h.isActive, if_neg Bool.false_ne_true] at hok ⊢
  split at hok
  · cases hok
  · rename_i hrunning
    cases eq_running_of_checkRunning hrunning
    split at hok <;> rename_i hprocess
    · cases hok
    · obtain ⟨rfl, p, hp, hwrites⟩ := process_writes h hprocess
      rw [hwrites.records.mode_eq]
      exact ⟨[p], .threadCreate hp, hwrites⟩

theorem minLength_le_of_checkLength {v : Verifier} {live : Bytes} (h : v.checkLength live = .ok ()) :
    v.layout.minLength ≤ live.length := by
  rw [Verifier.checkLength] at h
  split at h
  · cases h
  · exact Nat.le_of_not_lt ‹_›

theorem snapshot_writes {s : Session} (h : s.Records) {live : Bytes}
    (hok : (s.snapshot live).1.isOk) :
    s.verifier.layout.minLength ≤ live.length ∧
      ∃ p : Passage, p.logged = (.snapshot s.running live.length, live) ∧
        s.Writes [p] (s.snapshot live).2 := by
  rw [snapshot, h.isActive, h.isReplay] at hok ⊢
  split at hok
  · cases hok
  · rename_i hopen
    rw [if_neg Bool.false_ne_true] at hok
    rw [if_neg hopen, if_neg Bool.false_ne_true]
    split at hok <;> rename_i hlength
    · cases hok
    · simp only [Bool.false_eq_true, ↓reduceIte] at hok ⊢
      split at hok <;> rename_i hprocess
      · cases hok
      · obtain ⟨p, hp, hwrites⟩ := processData_writes h hprocess
        rw [hwrites.records.isReplay]
        exact ⟨minLength_le_of_checkLength hlength, p, hp, hwrites⟩

theorem syscallArgs_logs {s : Session} (h : s.Records) {thread : ThreadId} {sysno : UInt32}
    {registers : Bytes} (hok : (s.syscallArgs thread sysno registers).1.isOk) :
    s.Logs (.syscallArgs thread sysno registers) (s.syscallArgs thread sysno registers).2 := by
  rw [syscallArgs, h.isActive, if_neg Bool.false_ne_true] at hok ⊢
  split at hok
  · cases hok
  · rename_i hrunning
    cases eq_running_of_checkRunning hrunning
    split at hok <;> rename_i hprocess
    · cases hok
    · obtain ⟨_, p, hp, hwrites⟩ := process_writes h hprocess
      obtain ⟨henough, q, hq, hwrites'⟩ := snapshot_writes hwrites.records hok
      rw [hwrites.layout] at henough
      rw [hwrites.running] at hq
      exact ⟨[p, q], .syscallArgs henough hp hq, hwrites.trans hwrites'⟩

theorem syscallRet_logs {s : Session} (h : s.Records) {value : UInt64}
    (hok : (s.syscallRet value).1.isOk) :
    s.Logs (.syscallRet value) (s.syscallRet value).2.2 := by
  rw [syscallRet, h.isActive, if_neg Bool.false_ne_true] at hok ⊢
  split at hok <;> rename_i hprocess
  · cases hok
  all_goals
    obtain ⟨_, p, hp, hwrites⟩ := process_writes h hprocess
    exact ⟨[p], .syscallRet hp, hwrites⟩

theorem processRegions_logs {s : Session} (h : s.Records) {regions : List Guest.Memory}
    (hok : (s.processRegions regions).1.isOk) :
    ∃ passages : List Passage, List.Forall₂ (fun region p =>
        p.logged = (.data s.running region.bytes.length region.base, region.bytes))
          regions passages ∧
      s.Writes passages (s.processRegions regions).2.2 := by
  induction regions generalizing s with
  | nil => exact ⟨[], .nil, h.writes_nil⟩
  | cons region rest ih =>
    rw [processRegions] at hok ⊢
    split at hok <;> rename_i hprocess
    · cases hok
    · obtain ⟨p, hp, hwrites⟩ := processData_writes h hprocess
      obtain ⟨passages, hlogged, hwrites'⟩ := ih hwrites.records hok
      rw [hwrites.running] at hlogged
      exact ⟨p :: passages, .cons hp hlogged, hwrites.trans hwrites'⟩

theorem dispatchCounter_logs {s : Session} (h : s.Records) {counter : UInt64} {before : Bool}
    (hok : (s.dispatchCounter counter before).1.isOk) :
    s.Logs (.dispatchCounter counter before) (s.dispatchCounter counter before).2 := by
  rw [dispatchCounter, h.isActive, if_neg Bool.false_ne_true] at hok ⊢
  split at hok <;> rename_i hprocess
  · cases hok
  · obtain ⟨hentry, p, hp, hwrites⟩ := process_writes h hprocess
    cases hentry
    refine ⟨[p], .dispatchCounter hp, ?_⟩
    rw [checkCounter, if_pos rfl]
    exact hwrites
  · obtain ⟨_, p, hp, hwrites⟩ := process_writes h hprocess
    exact ⟨[p], .dispatchCounter hp, hwrites⟩

theorem initMemLayout_logs {s : Session} (h : s.Records) {vstart stackTop : UInt64}
    (hok : (s.initMemLayout vstart stackTop).1.isOk) :
    s.Logs (.initMemLayout vstart stackTop) (s.initMemLayout vstart stackTop).2.2.2 := by
  rw [initMemLayout, h.isActive, if_neg Bool.false_ne_true] at hok ⊢
  split at hok <;> rename_i hprocess
  · cases hok
  · obtain ⟨hentry, p, hp, hwrites⟩ := process_writes h hprocess
    cases hentry
    split at hok <;> rename_i haligned
    · cases hok
    · exact ⟨[p], .initMemLayout haligned hp, hwrites⟩
  · rename_i hother
    obtain ⟨rfl, _⟩ := process_writes h hprocess
    exact (hother _ _ _ rfl).elim

theorem processStack_writes {s : Session} (h : s.Records) {addr : UInt64} {size : UInt32}
    {memory : Guest.Memory} (hok : (s.processStack addr size memory).1.isOk) :
    ∃ bytes, memory.read? addr size.toNat = some bytes ∧
      ∃ p : Passage, p.logged = (.data s.running size.toNat addr, bytes) ∧
        s.Writes [p] (s.processStack addr size memory).2.2 := by
  rw [processStack] at hok ⊢
  split at hok <;> rename_i hread
  · cases hok
  · rename_i bytes
    split at hok <;> rename_i hprocess
    · cases hok
    · obtain ⟨p, hp, hwrites⟩ := processData_writes h hprocess
      exact ⟨bytes, hread, p, hp, hwrites⟩

theorem initClientStack_logs {s : Session} (h : s.Records) {stackTop : UInt64}
    {image : Guest.StackImage} {memory : Guest.Memory}
    (hok : (s.initClientStack stackTop image memory).1.isOk) :
    s.Logs (.initClientStack stackTop image memory)
      (s.initClientStack stackTop image memory).2.2.2 := by
  rw [initClientStack, h.isActive, if_neg Bool.false_ne_true, h.isRecord] at hok ⊢
  simp only [↓reduceIte] at hok ⊢
  split at hok <;> rename_i hsize
  · cases hok
  · split at hok <;> rename_i htop
    · cases hok
    · rw [if_neg htop]
      split at hok <;> rename_i hprocess
      · cases hok
      · obtain ⟨hentry, p, hp, hwrites⟩ := process_writes h hprocess
        cases hentry
        simp only [hwrites.records.isReplay, Bool.false_eq_true, ↓reduceIte] at hok ⊢
        obtain ⟨bytes, hread, q, hq, hwrites'⟩ := processStack_writes hwrites.records hok
        rw [hwrites.running] at hq
        exact ⟨[p, q], .initClientStack htop hsize hread hp hq, hwrites.trans hwrites'⟩
      · rename_i hother
        obtain ⟨rfl, _⟩ := process_writes h hprocess
        exact (hother _ _ _ rfl).elim

theorem timestamp_logs {s : Session} (h : s.Records) {counter : UInt64}
    (hok : (s.timestamp counter).1.isOk) :
    s.Logs (.timestamp counter) (s.timestamp counter).2 := by
  have hreads : s.readsCounter = true := by
    rw [readsCounter, h.mode_eq]
    rfl
  rw [timestamp, h.isActive, if_neg Bool.false_ne_true, hreads] at hok ⊢
  simp only [↓reduceIte] at hok ⊢
  split at hok <;> rename_i hprocess
  · cases hok
  all_goals
    obtain ⟨_, p, hp, hwrites⟩ := process_writes h hprocess
    exact ⟨[p], .timestamp hp, hwrites⟩

theorem registerProbe_logs {s : Session} (h : s.Records) {slot : ThreadId} {probe : ExitProbe}
    (hok : (s.registerProbe slot probe).1.isOk) :
    s.Logs (.registerProbe slot probe) (s.registerProbe slot probe).2 := by
  rw [registerProbe] at hok ⊢
  split at hok <;> rename_i hregister
  · obtain ⟨hvalid, hslot⟩ := IdentityTable.registerProbe_ok hregister
    obtain ⟨w, hs⟩ := h
    have hheld : w.sink.held = w.sink.held ++ Passage.join [] := (List.append_nil _).symm
    exact ⟨[], .registerProbe hvalid hslot, ⟨w, w, hs, hs, hheld, rfl⟩, rfl, rfl, rfl⟩
  · cases hok

/-- A call that succeeds while recording wrote the passages that it logs. -/
theorem perform_logs {s : Session} (h : s.Records) {call : Call} (hclose : call ≠ .close)
    (hok : (s.perform call).1.result.isOk) : s.Logs call (s.perform call).2 := by
  cases call with
  | clientCmdline live =>
    simp only [perform, isOk_map] at hok ⊢
    exact clientCmdline_logs h hok
  | threadCreate parent child kernel =>
    simp only [perform, isOk_map] at hok ⊢
    exact threadCreate_logs h hok
  | syscallArgs thread sysno registers =>
    simp only [perform, isOk_map] at hok ⊢
    exact syscallArgs_logs h hok
  | syscallRet value =>
    simp only [perform, isOk_map] at hok ⊢
    exact syscallRet_logs h hok
  | syscallMem regions =>
    simp only [perform, isOk_map, syscallMem_of_active h.isActive] at hok ⊢
    obtain ⟨passages, hlogged, hwrites⟩ := processRegions_logs h hok
    exact ⟨passages, .syscallMem hlogged, hwrites⟩
  | dispatchCounter counter before =>
    simp only [perform, isOk_map] at hok ⊢
    exact dispatchCounter_logs h hok
  | initMemLayout vstart stackTop =>
    simp only [perform, isOk_map] at hok ⊢
    exact initMemLayout_logs h hok
  | initClientStack stackTop image memory =>
    simp only [perform, isOk_map] at hok ⊢
    exact initClientStack_logs h hok
  | initGuestState registers =>
    simp only [perform, isOk_map, initGuestState_of_active h.isActive] at hok ⊢
    obtain ⟨henough, p, hp, hwrites⟩ := snapshot_writes h hok
    exact ⟨[p], .initGuestState henough hp, hwrites⟩
  | snapshot registers =>
    simp only [perform, isOk_map] at hok ⊢
    obtain ⟨henough, p, hp, hwrites⟩ := snapshot_writes h hok
    exact ⟨[p], .snapshot henough hp, hwrites⟩
  | timestamp counter =>
    simp only [perform, isOk_map] at hok ⊢
    exact timestamp_logs h hok
  | registerProbe slot probe =>
    simp only [perform, isOk_map] at hok ⊢
    exact registerProbe_logs h hok
  | close => exact (hclose rfl).elim

/-- The end of a turn was logged, and nobody runs. -/
structure LogsEnd (s : Session) (thread : ThreadId) (tag : ReleaseTag) (s' : Session) : Prop where
  channel : ∃ p : Passage, p.logged = (.release thread tag, []) ∧ s.channel.Writes [p] s'.channel
  running : s'.running = .nobody
  turn : s'.schedule.turn = s.schedule.turn
  layout : s'.verifier.layout = s.verifier.layout

theorem handOver_writes {s s' : Session} (h : s.Records) (hok : s.handOver = (.ok (), s')) :
    s.Writes [] s' := by
  obtain ⟨w, hs⟩ := h
  rw [handOver, hs] at hok
  dsimp only at hok
  split at hok <;> rename_i hbarrier
  · rename_i w'
    cases hok
    have hsame := w.barrier_same
    rw [hbarrier] at hsame
    refine ⟨⟨w, w', hs, rfl, ?_, hsame.2.1⟩, rfl, rfl, rfl⟩
    rw [hsame.1, Passage.join_nil, List.append_nil]
  · cases hok

theorem release_logsEnd {s : Session} (h : s.Records) {thread : ThreadId} {tag : ReleaseTag}
    (hok : (s.release thread tag).1 = .ok ()) :
    s.LogsEnd thread tag (s.release thread tag).2 := by
  have hfree : ({ s with running := .nobody } : Session).Records := h
  rw [release, hfree.isActive, if_neg Bool.false_ne_true] at hok ⊢
  split at hok <;> rename_i hprocess
  · cases hok
  · obtain ⟨_, p, hp, hwrites⟩ := process_writes hfree hprocess
    have hhanded := handOver_writes hwrites.records (Prod.ext hok rfl)
    have hboth := hwrites.trans hhanded
    exact ⟨⟨p, hp, hboth.channel⟩, hboth.running, congrArg Schedule.turn hboth.schedule,
      hboth.layout⟩

theorem exitThread_logsEnd {s : Session} (h : s.Records) {thread : ThreadId}
    (hok : (s.exitThread thread).1 = .ok ()) :
    thread.isValid ∧ s.LogsEnd thread .exitThread (s.exitThread thread).2 := by
  rw [exitThread] at hok ⊢
  split at hok
  · cases hok
  · rename_i hvalid
    rw [if_neg hvalid]
    split at hok <;> rename_i hrelease
    · cases hok
    · have hends := release_logsEnd h (congrArg Prod.fst hrelease)
      rw [hrelease] at hends
      refine ⟨by simpa using hvalid, ?_⟩
      split
      · exact hends
      · exact ⟨hends.channel, hends.running, hends.turn, hends.layout⟩

end Session

namespace Token

structure Admits (t : Token) (thread : ThreadId) (passages : List Passage) (t' : Token) : Prop where
  channel : t.session.channel.Writes passages t'.session.channel
  holder : t'.holder = some thread
  running : t'.session.running = thread
  started : t'.session.schedule.turn ≠ .notStarted
  layout : t'.session.verifier.layout = t.session.verifier.layout

theorem started_iff {s : Schedule} : s.started = true ↔ s.turn ≠ .notStarted := by
  rw [Schedule.started, bne_iff_ne]

theorem turn_schedule_ne (s : Schedule) (thread : ThreadId) (callerClass : CallerClass) :
    (s.schedule thread callerClass).turn ≠ .notStarted := Turn.noConfusion

theorem turn_start_ne (s : Schedule) : s.start.turn ≠ .notStarted := Turn.noConfusion

/-- The first acquisition is the main thread's and is not logged; every other one is. -/
theorem acquire_admits {t : Token} (h : t.session.Records) (hfree : t.holder = none)
    {thread : ThreadId} {callerClass : CallerClass} {answers : ExitProbe → Nat → Bool}
    (hok : (t.acquire thread callerClass answers).1.isOk) :
    ∃ passages, t.Admits thread passages (t.acquire thread callerClass answers).2 ∧
      ((t.session.schedule.turn = .notStarted ∧ thread = .main ∧ passages = []) ∨
        (t.session.schedule.turn ≠ .notStarted ∧
          ∃ p : Passage, passages = [p] ∧ p.logged = (.acquire thread callerClass, []))) := by
  obtain ⟨session, holder⟩ := t
  cases hfree
  rw [acquire, if_neg (by simp), Session.enter, Session.ask, h.mode_eq] at hok ⊢
  by_cases hturn : session.schedule.turn = .notStarted
  · have hstarted : session.schedule.started = false := by
      rw [Schedule.started, hturn]
      rfl
    rw [hstarted, Schedule.answer, hturn] at hok ⊢
    dsimp only at hok ⊢
    by_cases hmain : thread.isMain = true
    · rw [if_pos hmain]
      refine ⟨[], ⟨h.writes_nil.channel, rfl, rfl, turn_start_ne _, rfl⟩, .inl ⟨rfl, ?_, rfl⟩⟩
      exact ThreadId.isMain_iff.mp hmain
    · rw [if_neg hmain] at hok
      cases hok
  · have hstarted : session.schedule.started = true := started_iff.mpr hturn
    rw [hstarted] at hok ⊢
    rcases hprocess : session.process (.acquire thread callerClass) with ⟨e | entry, s'⟩
    · rw [hprocess] at hok
      cases hok
    · dsimp only
      obtain ⟨_, p, hp, hwrites⟩ := Session.process_writes h hprocess
      obtain ⟨identities, warnings, hframe, _⟩ := Session.awaitExit_frame
        { s' with schedule := s'.schedule.schedule thread callerClass, running := thread } answers
      rw [hframe]
      refine ⟨[p], ⟨hwrites.channel, rfl, rfl, ?_, hwrites.layout⟩, .inr ⟨hturn, p, rfl, hp⟩⟩
      exact turn_schedule_ne s'.schedule thread callerClass

end Token

end Retrace
