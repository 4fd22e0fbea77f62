import Retrace.Proofs.Log.Footprint
import Retrace.Proofs.Session.Departure

namespace Retrace

open Log

namespace Session

/-- Of a replayed log, what is not read later is the end of what was not read before. -/
def Advances (s s' : Session) : Prop := s'.unread <:+ s.unread

theorem Advances.refl (s : Session) : s.Advances s := List.suffix_refl _

theorem Advances.trans {s s' s'' : Session} (h : s.Advances s') (h' : s'.Advances s'') :
    s.Advances s'' := List.IsSuffix.trans h' h

theorem advances_of_channel {s s' : Session} (h : s'.channel = s.channel) : s.Advances s' := by
  have hunread : s'.unread = s.unread := by rw [unread, unread, h]
  exact ⟨[], hunread⟩

theorem advances_of_unread_nil {s s' : Session} (h : s'.unread = []) : s.Advances s' := by
  rw [Advances, h]
  exact List.nil_suffix

theorem advances_of_answer {s s' : Session} {reader : Reader} (h : s.channel = .replay reader)
    (call : Reader.Call) (h' : s'.channel = .replay (reader.answer call).2) : s.Advances s' := by
  rw [Advances, unread, unread, h, h']
  exact reader.answer_suffix call

theorem process_advances (s : Session) (template : Entry) : s.Advances (s.process template).2 := by
  rw [process]
  split
  · exact .refl s
  · change s.Advances { s with channel := (s.channel.process template).2 }
    cases hchannel : s.channel with
    | inactive => exact advances_of_unread_nil rfl
    | record writer =>
      rw [Channel.process]
      split <;> exact advances_of_unread_nil rfl
    | replay reader =>
      apply advances_of_answer hchannel (.resolve template)
      rw [Reader.answer, Channel.process]
      split <;> rename_i hresolve <;> rw [hresolve]

theorem processData_advances (s : Session) (template : Entry) (buffer : Bytes) :
    s.Advances (s.processData template buffer).2.2 := by
  rw [processData]
  split
  · exact .refl s
  · change s.Advances { s with channel := (s.channel.processData template buffer).2.2 }
    cases hchannel : s.channel with
    | inactive => exact advances_of_unread_nil rfl
    | record writer =>
      rw [Channel.processData]
      split <;> exact advances_of_unread_nil rfl
    | replay reader =>
      apply advances_of_answer hchannel (.resolveData template buffer)
      rw [Reader.answer, Channel.processData]
      split <;> rename_i hresolve <;> rw [hresolve]

/-- What a buffer is filled with while a log is replayed is the payload of the passage that was next. -/
theorem passage_of_processData {s s' : Session} (h : s.mode = .replay) {template entry : Entry}
    {buffer filled : Bytes} (hprocess : s.processData template buffer = (.ok entry, filled, s')) :
    ∃ p : Passage, template.settle p.entry = .ok entry ∧ p.payload = filled ∧
      s.unread = p.bytes ++ s'.unread := by
  rw [processData] at hprocess
  split at hprocess
  · cases hprocess
  · cases hchannel : s.channel with
    | inactive =>
      rw [mode, hchannel] at h
      cases h
    | record writer =>
      rw [mode, hchannel] at h
      cases h
    | replay reader =>
      rw [hchannel, Channel.processData] at hprocess
      split at hprocess
      cases hprocess
      rename_i hresolve
      rw [unread, hchannel]
      split at hresolve <;> cases hresolve
      rename_i hresolve
      exact Reader.passage_of_resolveData hresolve

theorem clientCmdline_advances (s : Session) (live : Guest.CommandLine) :
    s.Advances (s.clientCmdline live).2 := by
  rw [clientCmdline]
  split
  · exact .refl s
  · split <;> rename_i hchannel
    · exact .refl s
    · dsimp only
      split
      · exact .refl s
      · split <;> exact advances_of_unread_nil rfl
    · apply advances_of_answer hchannel (.resolveCmdline ⟨s.running, .clientCmdline 0⟩)
      rw [Reader.answer]
      split <;> rename_i hresolve <;> rw [hresolve]

theorem carries_advances : Carries Advances :=
  ⟨Advances.refl, Advances.trans, process_advances, processData_advances, clientCmdline_advances⟩

theorem finish_advances (s : Session) : s.Advances s.finish := by
  rw [finish]
  split
  · split <;> exact advances_of_unread_nil rfl
  · exact .refl s

theorem perform_advances (s : Session) (call : Call) : s.Advances (s.perform call).2 := by
  refine carries_advances.perform s call ?_ ?_ ?_ ?_ ?_
  · intro parent child kernel _ s recorded
    rw [identify]
    split <;> exact advances_of_channel rfl
  · exact fun _ _ _ _ => advances_of_channel rfl
  · intro s before counter recorded
    rw [checkCounter]
    split <;> exact advances_of_channel rfl
  · intro slot probe _ s
    rw [registerProbe]
    split <;> exact advances_of_channel rfl
  · intro s
    rw [close]
    split
    · exact .refl s
    · exact s.finish_advances

theorem handOver_advances (s : Session) : s.Advances s.handOver.2 := by
  rw [handOver]
  split <;> rename_i hchannel
  · exact .refl s
  · split <;> exact advances_of_unread_nil rfl
  · apply advances_of_answer hchannel (.resolve (.acquire .nobody .unknown))
    rw [Reader.answer]
    split <;> rename_i hresolve <;> rw [hresolve]

theorem release_advances (s : Session) (thread : ThreadId) (tag : ReleaseTag) :
    s.Advances (s.release thread tag).2 := by
  have hfree : s.Advances { s with running := .nobody } := .refl s
  rw [release]
  split
  · exact hfree
  · have hsent := process_advances { s with running := .nobody } (.release thread tag)
    split <;> rename_i hprocess <;> rw [hprocess] at hsent
    · exact hfree.trans hsent
    · exact hfree.trans (hsent.trans (handOver_advances _))

theorem exitThread_advances (s : Session) (thread : ThreadId) :
    s.Advances (s.exitThread thread).2 := by
  rw [exitThread]
  split
  · exact .refl s
  · have hrelease := s.release_advances thread .exitThread
    split <;> rename_i hreleased <;> rw [hreleased] at hrelease
    · exact hrelease
    · split <;> exact hrelease

theorem ask_advances (s : Session) (thread : ThreadId) (callerClass : CallerClass) :
    s.Advances (s.ask thread callerClass).2 := by
  rw [ask]
  split
  · exact .refl s
  · have hsent := s.process_advances (.acquire thread callerClass)
    split <;> rename_i hprocess <;> rw [hprocess] at hsent <;> exact hsent
  · exact .refl s

theorem enter_advances (s : Session) (thread : ThreadId) (callerClass : CallerClass) :
    s.Advances (s.enter thread callerClass).2 := by
  have hask := s.ask_advances thread callerClass
  rw [enter]
  split <;> rename_i hasked
  · rw [hasked] at hask
    exact hask
  · rw [hasked] at hask
    exact hask
  · exact hask

theorem awaitExit_advances (s : Session) (answers : ExitProbe → Nat → Bool) :
    s.Advances (s.awaitExit answers).2 := by
  have hrelog := s.awaitExit_relog s.channel answers
  exact advances_of_channel (congrArg (fun answer => answer.2.channel) hrelog)

end Session

namespace Token

theorem acquire_advances (t : Token) (thread : ThreadId) (callerClass : CallerClass)
    (answers : ExitProbe → Nat → Bool) :
    t.session.Advances (t.acquire thread callerClass answers).2.session := by
  rw [acquire]
  split
  · exact .refl t.session
  · have henter := t.session.enter_advances thread callerClass
    split <;> rename_i hentered <;> rw [hentered] at henter
    · exact henter
    · exact henter
    · exact henter
    · exact henter.trans (Session.awaitExit_advances _ answers)

theorem giveUp_advances (t : Token) (finish : Session → ThreadId → Except SessionError Unit × Session)
    (hfinish : ∀ holder, t.session.Advances (finish t.session holder).2) :
    t.session.Advances (t.giveUp finish).2.session :=
  giveUp_session t.session.Advances (.refl t.session) hfinish

theorem step_advances (t : Token) (step : Step) : t.session.Advances (t.step step).2.session := by
  cases step with
  | acquire thread callerClass answers => exact t.acquire_advances thread callerClass answers
  | release tag =>
    exact t.giveUp_advances (fun session thread => session.release thread tag) fun holder =>
      t.session.release_advances holder tag
  | exitThread => exact t.giveUp_advances _ t.session.exitThread_advances
  | drop =>
    exact t.giveUp_advances (fun session _ => (.ok (), session)) fun _ => .refl t.session
  | call call => exact t.session.perform_advances call

/-- Nothing of a log is read twice, whatever the threads of a run do. -/
theorem run_advances (t : Token) (steps : List Step) :
    t.session.Advances (t.run steps).2.session := by
  induction steps generalizing t with
  | nil => exact .refl t.session
  | cons step steps ih => exact (t.step_advances step).trans (ih (t.step step).2)

end Token

end Retrace
