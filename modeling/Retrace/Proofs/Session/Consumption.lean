import Retrace.Proofs.Session.Asking

namespace Retrace

open Log

/-- A step that did not fail. Being told to wait is no failure. -/
def Outcome.succeeds : Outcome → Bool
  | .asked answer => answer.isOk
  | .gaveUp result => result.isOk
  | .replied reply => reply.result.isOk

namespace Session

theorem replays_of_reads {s s' : Session} {read : Bytes} {count : Nat}
    (h : s.channel.Reads read count s'.channel) : s'.Replays := by
  obtain ⟨r, r', _, hs', rest, offset, resolved, _, rfl⟩ := h
  exact ⟨_, _, _, hs'⟩

theorem entries_of_reads {s s' : Session} {read : Bytes} {count : Nat}
    (h : s.channel.Reads read count s'.channel) :
    s'.channel.entries = s.channel.entries + count := by
  obtain ⟨r, r', hs, hs', rest, offset, resolved, rfl, rfl⟩ := h
  rw [hs, hs']
  rfl

theorem Replays.reads_nothing {s s' : Session} (h : s.Replays) (hchannel : s'.channel = s.channel) :
    s.channel.Reads [] 0 s'.channel := by
  rw [hchannel]
  exact h.reads_refl.channel

end Session

namespace Token

def replaying (log : Bytes) (config : Config) (layout : Guest.RegisterLayout) : Token where
  session := (Session.replaying (.ofBytes log) config).withLayout layout

theorem replaying_replays (log : Bytes) (config : Config) (layout : Guest.RegisterLayout) :
    (replaying log config layout).session.Replays := ⟨log, 0, 0, rfl⟩

/-- The entries that a step stands for: those of its call, those of the end of the turn, or none. -/
def StandsFor (t : Token) (step : Step) (entries : List Entry) : Prop :=
  match step with
  | .acquire .. | .drop => entries = []
  | .release tag =>
    ∃ holder, t.holder = some holder ∧
      Session.EndsTurn holder tag entries (t.step (.release tag)).2.session
  | .exitThread =>
    ∃ holder, t.holder = some holder ∧
      Session.EndsTurn holder .exitThread entries (t.step .exitThread).2.session
  | .call call => call.StandsFor t.session.running entries

theorem Answers.channel {t t' : Token} {thread : ThreadId} {callerClass : CallerClass}
    {answer : Except TokenError Grant} (h : t.Answers thread callerClass answer t') :
    t'.session.channel = t.session.channel := by
  rw [Answers] at h
  split at h
  · split at h
    · exact h.2.channel
    · exact h.2 ▸ rfl
  · split at h
    · exact h.2 ▸ rfl
    · split at h
      · exact h.2 ▸ rfl
      · exact h.2.channel
  · exact h.2 ▸ rfl

theorem acquire_of_held {t : Token} (h : t.holder.isSome) (thread : ThreadId)
    (callerClass : CallerClass) (answers : ExitProbe → Nat → Bool) :
    t.acquire thread callerClass answers = (.error .alreadyHeld, t) := by
  rw [acquire, if_pos h]

theorem acquire_channel {t : Token} (h : t.session.Replays) (thread : ThreadId)
    (callerClass : CallerClass) (answers : ExitProbe → Nat → Bool) :
    (t.acquire thread callerClass answers).2.session.channel = t.session.channel := by
  cases hholder : t.holder with
  | none => exact (acquire_answers h hholder thread callerClass answers).channel
  | some holder => rw [acquire_of_held (by rw [hholder]; rfl)]

theorem isOk_mapError {ε ε' α : Type} (f : ε → ε') (result : Except ε α) :
    (result.mapError f).isOk = result.isOk := by
  cases result <;> rfl

theorem giveUp_of_held {t : Token} {thread : ThreadId} (h : t.holder = some thread)
    (finish : Session → ThreadId → Except SessionError Unit × Session) :
    t.giveUp finish = ((finish t.session thread).1.mapError .session,
      { session := (finish t.session thread).2 }) := by
  rw [giveUp, h]

theorem giveUp_reads {t : Token} (h : t.session.Replays) {tag : ReleaseTag}
    (finish : Session → ThreadId → Except SessionError Unit × Session)
    (hfinish : ∀ holder, t.session.AccountsTurn (finish t.session holder).2
      (finish t.session holder).1 holder tag) :
    ∃ read count, t.session.channel.Reads read count (t.giveUp finish).2.session.channel ∧
      ((t.giveUp finish).1.isOk → ∃ entries, Spells read entries ∧ count = entries.length ∧
        ∃ holder, t.holder = some holder ∧
          Session.EndsTurn holder tag entries (t.giveUp finish).2.session) := by
  rw [giveUp]
  cases hholder : t.holder with
  | none => exact ⟨[], 0, h.reads_refl.channel, fun hok => nomatch hok⟩
  | some holder =>
    obtain ⟨read, count, hreads, hturn⟩ := hfinish holder
    refine ⟨read, count, hreads, ?_⟩
    intro hok
    rw [isOk_mapError] at hok
    have hdone : (finish t.session holder).1 = .ok () := by
      cases hresult : (finish t.session holder).1 with
      | ok => rfl
      | error e =>
        rw [hresult] at hok
        cases hok
    obtain ⟨entries, hspells, hcount, hends⟩ := hturn hdone
    exact ⟨entries, hspells, hcount, holder, rfl, hends⟩

/-- Whatever a step leaves, it reads on in the log; where it succeeds, what it read spells entries that
it stands for. -/
theorem step_reads {t : Token} (h : t.session.Replays) (step : Step) :
    ∃ read count, t.session.channel.Reads read count (t.step step).2.session.channel ∧
      ((t.step step).1.succeeds → ∃ entries, Spells read entries ∧ count = entries.length ∧
        t.StandsFor step entries) := by
  cases step with
  | acquire thread callerClass answers =>
    exact ⟨[], 0, h.reads_nothing (acquire_channel h thread callerClass answers),
      fun _ => ⟨[], spells_nil, rfl, rfl⟩⟩
  | release tag =>
    exact giveUp_reads h (fun session holder => session.release holder tag)
      fun holder => Session.release_accounts h holder tag
  | exitThread =>
    exact giveUp_reads h Session.exitThread fun holder => Session.exitThread_accounts h holder
  | drop =>
    refine ⟨[], 0, h.reads_nothing ?_, fun _ => ⟨[], spells_nil, rfl, rfl⟩⟩
    rw [Token.step, drop, giveUp]
    cases t.holder <;> rfl
  | call call =>
    obtain ⟨read, count, hreads, hok⟩ := Session.perform_accounts h call
    exact ⟨read, count, hreads.channel, hok⟩

/-- Each step reads passages of entries that it stands for, and the next step reads on behind them. -/
inductive ReadsAlong : Token → List Step → List (List Passage) → Prop
  | nil (t : Token) : ReadsAlong t [] []
  | cons {t : Token} {step : Step} {rest : List Step} {segment : List Passage}
      {segments : List (List Passage)}
      (unread : t.session.unread = Passage.join segment ++ (t.step step).2.session.unread)
      (stands : t.StandsFor step (segment.map (·.entry)))
      (tail : ReadsAlong (t.step step).2 rest segments) :
      ReadsAlong t (step :: rest) (segment :: segments)

theorem ReadsAlong.unread_eq {t : Token} {steps : List Step} {segments : List (List Passage)}
    (h : t.ReadsAlong steps segments) :
    t.session.unread = Passage.join segments.flatten ++ (t.run steps).2.session.unread := by
  induction h with
  | nil t => rfl
  | cons unread _ _ ih =>
    rw [unread, ih, List.flatten_cons, Passage.join_append, List.append_assoc]
    rfl

theorem exists_readsAlong {t : Token} (h : t.session.Replays) (steps : List Step)
    (hok : (t.run steps).1.all (·.succeeds)) :
    ∃ segments, t.ReadsAlong steps segments ∧
      (t.run steps).2.session.channel.entries =
        t.session.channel.entries + segments.flatten.length := by
  induction steps generalizing t with
  | nil => exact ⟨[], .nil t, rfl⟩
  | cons step rest ih =>
    obtain ⟨hstep, hrest⟩ := Bool.and_eq_true_iff.mp hok
    obtain ⟨read, count, hreads, hentries⟩ := step_reads h step
    obtain ⟨entries, ⟨segment, rfl, rfl⟩, rfl, hstands⟩ := hentries hstep
    obtain ⟨segments, halong, hcount⟩ := ih (Session.replays_of_reads hreads) hrest
    refine ⟨segment :: segments, .cons (Session.unread_of_reads hreads) hstands halong, ?_⟩
    have hread := Session.entries_of_reads hreads
    rw [List.length_map] at hread
    rw [List.flatten_cons, List.length_append, ← Nat.add_assoc, ← hread]
    exact hcount

/-- The entries that a replay consumes are the first ones a cursor shows of the log. Nothing is
skipped or used twice, and each step consumes exactly the entries that it stands for. -/
theorem consumed_prefix_items (log : Bytes) (config : Config) (layout : Guest.RegisterLayout)
    (steps : List Step) (h : ((replaying log config layout).run steps).1.all (·.succeeds)) :
    ∃ segments, (replaying log config layout).ReadsAlong steps segments ∧
      (layOut 0 0 (segments.flatten.map Passage.logged)).map .ok <+: Cursor.items (.ofBytes log) ∧
      log = Passage.join segments.flatten ++
        ((replaying log config layout).run steps).2.session.unread ∧
      ((replaying log config layout).run steps).2.session.channel.entries =
        segments.flatten.length := by
  obtain ⟨segments, halong, hcount⟩ :=
    exists_readsAlong (replaying_replays log config layout) steps h
  have hlog : log = Passage.join segments.flatten ++
      ((replaying log config layout).run steps).2.session.unread := halong.unread_eq
  refine ⟨segments, halong, ?_, hlog, ?_⟩
  · rw [Cursor.items_ofBytes, hlog, Cursor.plain_walk_join]
    exact List.prefix_append _ _
  · rw [hcount]
    exact Nat.zero_add _

/-- A log of one turn of the main thread, with the start of another turn behind it. -/
def sampleLog : Bytes :=
  Entry.encode ⟨.main, .timestamp 7 0⟩ ++ (Entry.data .main 2 0x1000).encode ++ [1, 2] ++
    (Entry.release .main (.ofBytes [1])).encode ++ (Entry.acquire ⟨2⟩ .normal).encode ++
    (Entry.syscallRet ⟨2⟩ 5).encode

def sampleTurn : List Step :=
  [.acquire .main .normal fun _ _ => true, .call (.timestamp 9), .call (.syscallMem [⟨0x2000, [8, 9]⟩]),
    .release (.ofBytes [1]), .acquire ⟨3⟩ .normal fun _ _ => true,
    .acquire ⟨2⟩ .normal fun _ _ => true]

theorem consumed_prefix_items_sampleTurn :
    ((replaying sampleLog {} .x86).run sampleTurn).1.all (·.succeeds) ∧
      ∃ segments, (replaying sampleLog {} .x86).ReadsAlong sampleTurn segments ∧
        (layOut 0 0 (segments.flatten.map Passage.logged)).map .ok <+:
          Cursor.items (.ofBytes sampleLog) ∧
        sampleLog = Passage.join segments.flatten ++
          ((replaying sampleLog {} .x86).run sampleTurn).2.session.unread ∧
        segments.flatten.length = 4 := by
  have hok : ((replaying sampleLog {} .x86).run sampleTurn).1.all (·.succeeds) := by decide +kernel
  have hentries : ((replaying sampleLog {} .x86).run sampleTurn).2.session.channel.entries = 4 := by
    decide +kernel
  obtain ⟨segments, halong, hprefix, hlog, hcount⟩ :=
    consumed_prefix_items sampleLog {} .x86 sampleTurn hok
  exact ⟨hok, segments, halong, hprefix, hlog, hcount.symm.trans hentries⟩

end Token

end Retrace
