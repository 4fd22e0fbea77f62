import Retrace.Proofs.Session.Consumption
import Retrace.Proofs.Session.LiveValues

namespace Retrace

open Log

/-- Two calls of one shape: they agree in what the log is checked against, in how much room they bring,
and in where the stack is to end. The other values they bring are whatever they are. -/
inductive Call.SameShape : Call → Call → Prop
  | clientCmdline (live live' : Guest.CommandLine) :
    SameShape (.clientCmdline live) (.clientCmdline live')
  | threadCreate (parent child : ThreadId) (kernel kernel' : KernelTid) :
    SameShape (.threadCreate parent child kernel) (.threadCreate parent child kernel')
  | syscallArgs (thread : ThreadId) (sysno : UInt32) {registers registers' : Bytes}
    (length_eq : registers.length = registers'.length) :
    SameShape (.syscallArgs thread sysno registers) (.syscallArgs thread sysno registers')
  | syscallRet (value value' : UInt64) : SameShape (.syscallRet value) (.syscallRet value')
  | syscallMem {regions regions' : List Guest.Memory}
    (lengths_eq : List.Forall₂ (fun region region' =>
      region.bytes.length = region'.bytes.length) regions regions') :
    SameShape (.syscallMem regions) (.syscallMem regions')
  | dispatchCounter (before : Bool) (counter counter' : UInt64) :
    SameShape (.dispatchCounter counter before) (.dispatchCounter counter' before)
  | initMemLayout (vstart stackTop vstart' stackTop' : UInt64) :
    SameShape (.initMemLayout vstart stackTop) (.initMemLayout vstart' stackTop')
  | initClientStack (stackTop : UInt64) (image image' : Guest.StackImage)
    {memory memory' : Guest.Memory} (range : memory.SameRange memory') :
    SameShape (.initClientStack stackTop image memory) (.initClientStack stackTop image' memory')
  | initGuestState {registers registers' : Bytes}
    (length_eq : registers.length = registers'.length) :
    SameShape (.initGuestState registers) (.initGuestState registers')
  | snapshot {registers registers' : Bytes} (length_eq : registers.length = registers'.length) :
    SameShape (.snapshot registers) (.snapshot registers')
  | timestamp (counter counter' : UInt64) : SameShape (.timestamp counter) (.timestamp counter')
  | registerProbe (slot : ThreadId) (probe : ExitProbe) :
    SameShape (.registerProbe slot probe) (.registerProbe slot probe)
  | close : SameShape .close .close

/-- Two steps of one shape. The probes may answer their polls differently. -/
inductive Step.SameShape : Step → Step → Prop
  | acquire (thread : ThreadId) (callerClass : CallerClass)
    (answers answers' : ExitProbe → Nat → Bool) :
    SameShape (.acquire thread callerClass answers) (.acquire thread callerClass answers')
  | release (tag : ReleaseTag) : SameShape (.release tag) (.release tag)
  | exitThread : SameShape .exitThread .exitThread
  | drop : SameShape .drop .drop
  | call {live live' : Call} (h : live.SameShape live') : SameShape (.call live) (.call live')

inductive Seen
  | nothing
  | word (value : UInt64)
  | regions (contents : List Bytes)
  | layout (vstart stackTop : UInt64)
  | stack (image : Guest.StackImage) (contents : Option Bytes)

def Call.seen : Call → Seen
  | .syscallRet value => .word value
  | .syscallMem regions => .regions (regions.map (·.bytes))
  | .initMemLayout vstart stackTop => .layout vstart stackTop
  | .initClientStack _ image memory =>
    .stack image (memory.read? image.initialSp (image.stackEnd - image.initialSp).toNat)
  | _ => .nothing

/-- What the program sees of a reply: an error, or the value and what the call gave back. -/
def Reply.seen (reply : Reply) : Except SessionError (Value × Seen) :=
  match reply.result with
  | .ok value => .ok (value.undiverged, reply.call.seen)
  | .error e => .error e.unplaced

/-- Two outcomes that look the same to the program. Neither read the live counter. -/
inductive Outcome.LooksLike : Outcome → Outcome → Prop
  | refused (e : TokenError) : LooksLike (.asked (.error e)) (.asked (.error e))
  | waits : LooksLike (.asked (.ok .notYet)) (.asked (.ok .notYet))
  | granted {wait wait' : Option Session.ExitWait}
    (waitedFor : wait.map (fun w => (w.thread, w.probe)) = wait'.map fun w => (w.thread, w.probe)) :
    LooksLike (.asked (.ok (.granted wait))) (.asked (.ok (.granted wait')))
  | gaveUp (result : Except TokenError Unit) : LooksLike (.gaveUp result) (.gaveUp result)
  | replied {reply reply' : Reply} (seen : reply.seen = reply'.seen)
    (unread : reply.readsCounter = false) (unread' : reply'.readsCounter = false) :
    LooksLike (.replied reply) (.replied reply')

namespace Session

variable {s s' : Session}

theorem Twins.seen {α σ γ : Type} {session : σ → Session} {shows : α → σ → γ}
    {x x' : Except SessionError α × σ} (h : Twins session shows x x') (value : α → Value)
    (call call' : σ → Call)
    (hshown : ∀ a a' given given', shows a given = shows a' given' →
      (value a).undiverged = (value a').undiverged ∧ (call given).seen = (call' given').seen) :
    Reply.seen { result := x.1.map value, call := call x.2 } =
      Reply.seen { result := x'.1.map value, call := call' x'.2 } ∧
      (session x.2).Agrees (session x'.2) := by
  cases h with
  | failed reason agrees => exact ⟨congrArg Except.error reason, agrees⟩
  | done same agrees =>
    obtain ⟨hvalue, hseen⟩ := hshown _ _ _ _ same
    refine ⟨?_, agrees⟩
    rw [Reply.seen, Reply.seen]
    dsimp only [Except.map]
    rw [hvalue, hseen]

theorem Twins.seen_value {α : Type} {x x' : Except SessionError α × Session}
    (h : Twins id (fun value _ => value) x x') (value : α → Value) {call call' : Call}
    (hcall : call.seen = call'.seen) :
    Reply.seen { result := x.1.map value, call } =
        Reply.seen { result := x'.1.map value, call := call' } ∧
      x.2.Agrees x'.2 := by
  apply h.seen value (fun _ => call) (fun _ => call')
  intro _ _ _ _ same
  cases same
  exact ⟨rfl, hcall⟩

/-- Two calls of one shape give the same, made of replays that agree. -/
theorem perform_seen (h : s.Agrees s') {call call' : Call} (hshape : call.SameShape call') :
    (s.perform call).1.seen = (s'.perform call').1.seen ∧
      (s.perform call).2.Agrees (s'.perform call').2 := by
  cases hshape with
  | clientCmdline live live' => exact (clientCmdline_twins h live live').seen_value .commandLine rfl
  | threadCreate parent child kernel kernel' =>
    exact (threadCreate_twins h parent child kernel kernel').seen_value .kernelTid rfl
  | syscallArgs thread sysno hlength =>
    exact (syscallArgs_twins h thread sysno hlength).seen_value .ofUnit rfl
  | syscallRet value value' =>
    apply (syscallRet_twins h value value').seen .ofUnit (fun given => .syscallRet given.1)
      (fun given => .syscallRet given.1)
    intro _ _ _ _ same
    exact ⟨rfl, congrArg Seen.word same⟩
  | syscallMem hlengths =>
    apply (syscallMem_twins h hlengths).seen .ofUnit (fun given => .syscallMem given.1)
      (fun given => .syscallMem given.1)
    intro _ _ _ _ same
    exact ⟨rfl, congrArg Seen.regions same⟩
  | dispatchCounter before counter counter' =>
    exact (dispatchCounter_twins h counter counter' before).seen_value .ofUnit rfl
  | initMemLayout vstart stackTop vstart' stackTop' =>
    apply (initMemLayout_twins h vstart stackTop vstart' stackTop').seen .ofUnit
      (fun given => .initMemLayout given.1 given.2.1) (fun given => .initMemLayout given.1 given.2.1)
    intro _ _ _ _ same
    let see (shown : UInt64 × UInt64) : Seen := .layout shown.1 shown.2
    exact ⟨rfl, congrArg see same⟩
  | initClientStack stackTop image image' hrange =>
    apply (initClientStack_twins h stackTop image image' hrange).seen .ofUnit
      (fun given => .initClientStack stackTop given.1 given.2.1)
      (fun given => .initClientStack stackTop given.1 given.2.1)
    intro _ _ _ _ same
    let see (shown : Guest.StackImage × Option Bytes) : Seen := .stack shown.1 shown.2
    exact ⟨rfl, congrArg see same⟩
  | initGuestState hlength => exact (initGuestState_twins h hlength).seen_value .ofUnit rfl
  | snapshot hlength => exact (snapshot_twins h hlength).seen_value .ofUnit rfl
  | timestamp counter counter' => exact (timestamp_twins h counter counter').seen_value .counter rfl
  | registerProbe slot probe => exact (registerProbe_twins h slot probe).seen_value .ofUnit rfl
  | close =>
    obtain ⟨htold, hagrees⟩ := close_agrees h
    exact ⟨congrArg (fun told => Except.ok (Value.summary told, Seen.nothing)) htold, hagrees⟩

theorem perform_readsCounter (h : s.Replays) (call : Call) :
    (s.perform call).1.readsCounter = false := by
  cases call with
  | timestamp counter => exact h.readsCounter
  | _ => rfl

theorem handOver_agrees (h : s.Agrees s') :
    s.handOver.1 = s'.handOver.1 ∧ s.handOver.2.Agrees s'.handOver.2 := by
  obtain ⟨rest, offset, resolved, hs⟩ := h.replays
  obtain ⟨read, count, hreads⟩ :=
    Reader.resolve_reads rest offset resolved (.acquire .nobody .unknown)
  rw [handOver, handOver, ← h.channel, hs]
  dsimp only
  generalize (Reader.plain rest offset resolved).resolve (.acquire .nobody .unknown) = taken
    at hreads
  obtain ⟨result, r⟩ := taken
  obtain ⟨rest', offset', resolved', _, hplain⟩ := hreads
  cases hplain
  have hnext := h.goOn ⟨rest', offset' + read.length, resolved' + count, rfl⟩
  rcases result with e | ⟨thread, body⟩
  · cases e with
    | endOfLog => exact ⟨rfl, hnext.reschedule (·.exhaust)⟩
    | _ => exact ⟨rfl, hnext⟩
  · cases body with
    | acquire next callerClass => exact ⟨rfl, hnext.reschedule (·.schedule next callerClass)⟩
    | _ => exact ⟨rfl, hnext⟩

theorem release_agrees (h : s.Agrees s') (thread : ThreadId) (tag : ReleaseTag) :
    (s.release thread tag).1 = (s'.release thread tag).1 ∧
      (s.release thread tag).2.Agrees (s'.release thread tag).2 := by
  have hfree := h.letRun .nobody
  rw [release, release, hfree.replays.isActive, hfree.replays_right.isActive,
    if_neg Bool.false_ne_true, if_neg Bool.false_ne_true, Entry.release]
  rcases hfree.process_cases (.refl (.release tag)) thread with
    ⟨e, next, next', hprocess, hprocess', hagrees⟩ |
    ⟨recorded, entry, next, next', hprocess, hprocess', hsettle, hagrees⟩
  · rw [hprocess, hprocess']
    exact ⟨rfl, hagrees⟩
  · rw [hprocess, hprocess']
    exact handOver_agrees hagrees

theorem exitThread_agrees (h : s.Agrees s') (thread : ThreadId) :
    (s.exitThread thread).1 = (s'.exitThread thread).1 ∧
      (s.exitThread thread).2.Agrees (s'.exitThread thread).2 := by
  rw [exitThread, exitThread]
  split
  · exact ⟨rfl, h⟩
  · obtain ⟨hresult, hagrees⟩ := release_agrees h thread .exitThread
    generalize s.release thread .exitThread = released, s'.release thread .exitThread = released'
      at hresult hagrees
    obtain ⟨result, next⟩ := released
    obtain ⟨result', next'⟩ := released'
    cases hresult
    cases result with
    | error e => exact ⟨rfl, hagrees⟩
    | ok =>
      have hmarked := hagrees.reschedule (·.markExiting thread)
      dsimp only
      rw [hagrees.replays.isActive, hagrees.replays_right.isActive, if_neg Bool.false_ne_true,
        if_neg Bool.false_ne_true]
      exact ⟨rfl, hmarked.reidentify (hagrees.identities.clear thread)⟩

theorem awaitExit_agrees (h : s.Agrees s') (answers answers' : ExitProbe → Nat → Bool) :
    ((s.awaitExit answers).1.map fun w => (w.thread, w.probe)) =
        ((s'.awaitExit answers').1.map fun w => (w.thread, w.probe)) ∧
      (s.awaitExit answers).2.Agrees (s'.awaitExit answers').2 := by
  have htaken := h.reschedule fun schedule => { schedule with exiting := none }
  have hexiting : s'.schedule.exiting = s.schedule.exiting :=
    congrArg Schedule.exiting h.schedule.symm
  rw [awaitExit, awaitExit, Schedule.takeExiting, Schedule.takeExiting, hexiting]
  cases s.schedule.exiting with
  | none => exact ⟨rfl, htaken⟩
  | some thread =>
    dsimp only
    split
    · exact ⟨rfl, htaken⟩
    · obtain ⟨hprobe, htables⟩ := h.identities.takeProbe thread
      generalize s.identities.takeProbe thread = probed, s'.identities.takeProbe thread = probed'
        at hprobe htables
      obtain ⟨probe?, table⟩ := probed
      obtain ⟨probe?', table'⟩ := probed'
      cases hprobe
      cases probe? with
      | none => exact ⟨rfl, htaken⟩
      | some probe =>
        have hpolled := htaken.reidentify htables
        refine ⟨rfl, ?_⟩
        dsimp only
        split
        · split
          · exact hpolled
          · exact hpolled.rewarn _ _
        · split
          · exact hpolled.rewarn _ _
          · exact hpolled.rewarn _ _

theorem enter_agrees (h : s.Agrees s') (thread : ThreadId) (callerClass : CallerClass) :
    (s.enter thread callerClass).1 = (s'.enter thread callerClass).1 ∧
      (s.enter thread callerClass).2.Agrees (s'.enter thread callerClass).2 := by
  rw [enter, enter, ask_of_replays h.replays, ask_of_replays h.replays_right, ← h.schedule]
  rcases s.schedule.answer thread callerClass with e | answer
  · exact ⟨rfl, h⟩
  · cases answer with
    | first => exact ⟨rfl, (h.letRun thread).reschedule (·.start)⟩
    | admitted => exact ⟨rfl, h.letRun thread⟩
    | notYet => exact ⟨rfl, h⟩

end Session

namespace Token

/-- Two runs whose sessions agree, and in which the same thread runs. -/
structure Agrees (t t' : Token) : Prop where
  holder : t.holder = t'.holder
  session : t.session.Agrees t'.session

variable {t t' : Token}

theorem acquire_agrees (h : t.Agrees t') (thread : ThreadId) (callerClass : CallerClass)
    (answers answers' : ExitProbe → Nat → Bool) :
    Outcome.LooksLike (.asked (t.acquire thread callerClass answers).1)
        (.asked (t'.acquire thread callerClass answers').1) ∧
      (t.acquire thread callerClass answers).2.Agrees (t'.acquire thread callerClass answers').2 := by
  rw [acquire, acquire, ← h.holder]
  split
  · exact ⟨.refused _, h⟩
  · obtain ⟨hanswer, hentered⟩ := Session.enter_agrees h.session thread callerClass
    generalize t.session.enter thread callerClass = entered,
      t'.session.enter thread callerClass = entered' at hanswer hentered
    obtain ⟨answer, next⟩ := entered
    obtain ⟨answer', next'⟩ := entered'
    cases hanswer
    rcases answer with e | admission
    · exact ⟨.refused _, rfl, hentered⟩
    · cases admission with
      | notYet => exact ⟨.waits, rfl, hentered⟩
      | first => exact ⟨.granted rfl, rfl, hentered⟩
      | admitted =>
        obtain ⟨hwaited, hawaited⟩ := Session.awaitExit_agrees hentered answers answers'
        exact ⟨.granted hwaited, rfl, hawaited⟩

theorem giveUp_agrees (h : t.Agrees t')
    (finish : Session → ThreadId → Except SessionError Unit × Session)
    (hfinish : ∀ thread, (finish t.session thread).1 = (finish t'.session thread).1 ∧
      (finish t.session thread).2.Agrees (finish t'.session thread).2) :
    Outcome.LooksLike (.gaveUp (t.giveUp finish).1) (.gaveUp (t'.giveUp finish).1) ∧
      (t.giveUp finish).2.Agrees (t'.giveUp finish).2 := by
  rw [giveUp, giveUp, ← h.holder]
  cases t.holder with
  | none => exact ⟨.gaveUp _, h⟩
  | some thread =>
    obtain ⟨hresult, hagrees⟩ := hfinish thread
    dsimp only
    rw [hresult]
    exact ⟨.gaveUp _, rfl, hagrees⟩

theorem step_agrees (h : t.Agrees t') {step step' : Step} (hshape : step.SameShape step') :
    (t.step step).1.LooksLike (t'.step step').1 ∧ (t.step step).2.Agrees (t'.step step').2 := by
  cases hshape with
  | acquire thread callerClass answers answers' =>
    exact acquire_agrees h thread callerClass answers answers'
  | release tag =>
    exact giveUp_agrees h (fun session thread => session.release thread tag)
      fun thread => Session.release_agrees h.session thread tag
  | exitThread => exact giveUp_agrees h Session.exitThread (Session.exitThread_agrees h.session)
  | drop => exact giveUp_agrees h (fun session _ => (.ok (), session)) fun _ => ⟨rfl, h.session⟩
  | @call live live' hshape =>
    obtain ⟨hseen, hagrees⟩ := Session.perform_seen h.session hshape
    have hunread := Session.perform_readsCounter h.session.replays live
    have hunread' := Session.perform_readsCounter h.session.replays_right live'
    exact ⟨.replied hseen hunread hunread', h.holder, hagrees⟩

theorem run_agrees {steps steps' : List Step} (hshape : List.Forall₂ Step.SameShape steps steps')
    (h : t.Agrees t') :
    List.Forall₂ Outcome.LooksLike (t.run steps).1 (t'.run steps').1 ∧
      (t.run steps).2.Agrees (t'.run steps').2 := by
  induction hshape generalizing t t' with
  | nil => exact ⟨.nil, h⟩
  | cons hstep _ ih =>
    obtain ⟨hlooks, hagrees⟩ := step_agrees h hstep
    obtain ⟨hrest, hlast⟩ := ih hagrees
    exact ⟨.cons hlooks hrest, hlast⟩

/-- What a replay gives is decided by its log. Two runs over one log whose steps have the same shape
have outcomes that look the same, read as much, and leave the same turn to the same threads, whatever
other values they bring. -/
theorem replay_determined_by_log (log : Bytes) (config : Config) (layout : Guest.RegisterLayout)
    {steps steps' : List Step} (hshape : List.Forall₂ Step.SameShape steps steps') :
    let one := (replaying log config layout).run steps
    let other := (replaying log config layout).run steps'
    List.Forall₂ Outcome.LooksLike one.1 other.1 ∧
      one.2.session.unread = other.2.session.unread ∧
      one.2.session.channel.entries = other.2.session.channel.entries ∧
      one.2.session.schedule.turn = other.2.session.schedule.turn ∧
      one.2.session.running = other.2.session.running ∧
      one.2.Agrees other.2 := by
  intro one other
  have hstart : (replaying log config layout).Agrees (replaying log config layout) :=
    ⟨rfl, .refl (replaying_replays log config layout)⟩
  obtain ⟨hlooks, hagrees⟩ := run_agrees hshape hstart
  have hchannel : one.2.session.channel = other.2.session.channel := hagrees.session.channel
  refine ⟨hlooks, ?_, congrArg Channel.entries hchannel, ?_, hagrees.session.running, hagrees⟩
  · rw [Session.unread, Session.unread, hchannel]
  · exact congrArg Schedule.turn hagrees.session.schedule

def clientLog : Bytes :=
  Entry.encode ⟨.nobody, .clientCmdline 3⟩ ++ [97, 32, 98] ++
    Entry.encode ⟨.nobody, .initMemLayout 0x1000 0x8fff⟩ ++
    Entry.encode ⟨.nobody, .initClientStack 2 0x8ffe⟩ ++ (Entry.data .nobody 2 0).encode ++ [5, 6] ++
    (Entry.syscallRet .main 7).encode ++ Entry.encode ⟨.main, .dispatchCounter true 8⟩ ++
    Entry.encode ⟨.main, .timestamp 1 2⟩ ++ (Entry.release .main (.ofBytes [1])).encode

/-- The steps that the log tells of, in a run in which all values are one. -/
def liveTurn (live : UInt64) : List Step :=
  let byte := live.toUInt8
  [.call (.clientCmdline ⟨toString live, []⟩), .call (.initMemLayout live live),
    .call (.initClientStack 0x8fff ⟨live, live, live, live⟩ ⟨0x8ffd, [byte, byte]⟩),
    .acquire .main .normal fun _ _ => byte = 0, .call (.syscallRet live),
    .call (.dispatchCounter live true), .call (.timestamp live), .release (.ofBytes [1])]

theorem liveTurn_sameShape (live live' : UInt64) :
    List.Forall₂ Step.SameShape (liveTurn live) (liveTurn live') := by
  apply List.Forall₂.cons (.call (.clientCmdline _ _))
  apply List.Forall₂.cons (.call (.initMemLayout _ _ _ _))
  apply List.Forall₂.cons (.call (.initClientStack _ _ _ ⟨rfl, rfl⟩))
  apply List.Forall₂.cons (.acquire _ _ _ _)
  apply List.Forall₂.cons (.call (.syscallRet _ _))
  apply List.Forall₂.cons (.call (.dispatchCounter _ _ _))
  apply List.Forall₂.cons (.call (.timestamp _ _))
  exact .cons (.release _) .nil

theorem replay_determined_by_log_clientLog :
    let one := (replaying clientLog {} .x86).run (liveTurn 8)
    let other := (replaying clientLog {} .x86).run (liveTurn 9)
    List.Forall₂ Step.SameShape (liveTurn 8) (liveTurn 9) ∧ one.1.all (·.succeeds) ∧
      List.Forall₂ Outcome.LooksLike one.1 other.1 ∧ one.2.session.unread = other.2.session.unread ∧
      one.2.session.divergence ≠ other.2.session.divergence := by
  intro one other
  have hshape := liveTurn_sameShape 8 9
  have hok : one.1.all (·.succeeds) := by decide +kernel
  have hdiverged : one.2.session.divergence ≠ other.2.session.divergence := by decide +kernel
  obtain ⟨hlooks, hunread, _⟩ := replay_determined_by_log clientLog {} .x86 hshape
  exact ⟨hshape, hok, hlooks, hunread, hdiverged⟩

end Token

end Retrace
