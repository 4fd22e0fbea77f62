import Retrace.Proofs.Session.Reading

namespace Retrace

open Log

namespace Session

def unread (s : Session) : Bytes :=
  match s.channel with
  | .replay reader => reader.source.rest
  | _ => []

theorem unread_of_reads {s s' : Session} {read : Bytes} {count : Nat}
    (h : s.channel.Reads read count s'.channel) : s.unread = read ++ s'.unread := by
  obtain ⟨r, r', hs, hs', rest, offset, resolved, rfl, rfl⟩ := h
  rw [unread, unread, hs, hs']
  rfl

/-- The end of a turn resolved a release, and either the acquisition that is scheduled next, or met the
end of the log. -/
def EndsTurn (holder : ThreadId) (tag : ReleaseTag) (entries : List Entry) (s' : Session) : Prop :=
  (∃ next callerClass, entries = [.release holder tag, .acquire next callerClass] ∧
    next.index < slotLimit ∧ s'.schedule.turn = .scheduled next callerClass) ∨
  (entries = [.release holder tag] ∧ s'.unread = [] ∧ s'.schedule.turn = .exhausted)

/-- What the end of a turn reads, for a release, and for the exit of a thread. -/
def AccountsTurn (s s' : Session) (result : Except SessionError Unit) (holder : ThreadId)
    (tag : ReleaseTag) : Prop :=
  ∃ read count, s.channel.Reads read count s'.channel ∧
    (result = .ok () → ∃ entries, Spells read entries ∧ count = entries.length ∧
      EndsTurn holder tag entries s')

/-- Behind a release the acquisition is read that says who is next, or the end of the log is met. -/
theorem handOver_reads {s : Session} (h : s.Replays) :
    ∃ read count, s.channel.Reads read count s.handOver.2.channel ∧
      (s.handOver.1 = .ok () →
        (∃ p : Passage, ∃ next callerClass, read = p.bytes ∧ count = 1 ∧
          p.entry = .acquire next callerClass ∧ next.index < slotLimit ∧
          s.handOver.2.schedule = s.schedule.schedule next callerClass) ∨
        (read = [] ∧ count = 0 ∧ s.handOver.2.unread = [] ∧
          s.handOver.2.schedule = s.schedule.exhaust)) := by
  obtain ⟨rest, offset, resolved, hs⟩ := h
  have hreads := Reader.resolve_reads rest offset resolved (.acquire .nobody .unknown)
  rw [handOver, hs]
  dsimp only
  split <;> rename_i hresolve <;> rw [hresolve] at hreads
  · rename_i next callerClass r
    obtain ⟨p, _, hreads, hsettle⟩ := Reader.resolve_ok hresolve
    refine ⟨p.bytes, 1, ⟨_, _, rfl, rfl, hreads⟩, fun _ => .inl ?_⟩
    obtain ⟨_, _, hp, he, hbody⟩ := Entry.settle_ok_cases hsettle
    cases hbody with
    | acquire _ _ _ _ hslot =>
      cases he
      exact ⟨p, next, callerClass, rfl, rfl, hp, hslot, rfl⟩
  · rename_i hother
    obtain ⟨p, _, hreads, hsettle⟩ := Reader.resolve_ok hresolve
    obtain ⟨_, _, hp, rfl, hbody⟩ := Entry.settle_ok_cases hsettle
    cases hbody with
    | acquire => exact (hother _ _ _ rfl).elim
  · obtain ⟨rfl, rfl⟩ := Reader.resolve_endOfLog hresolve
    exact ⟨[], 0, ⟨_, _, rfl, rfl, .refl _ _ _⟩, fun _ => .inr ⟨rfl, rfl, rfl, rfl⟩⟩
  · obtain ⟨read, count, hreads⟩ := hreads
    exact ⟨read, count, ⟨_, _, rfl, rfl, hreads⟩, fun hok => nomatch hok⟩

theorem release_accounts {s : Session} (h : s.Replays) (holder : ThreadId) (tag : ReleaseTag) :
    s.AccountsTurn (s.release holder tag).2 (s.release holder tag).1 holder tag := by
  have hfree : ({ s with running := .nobody } : Session).Replays := h
  obtain ⟨read, count, hreads, hok⟩ := process_reads hfree (.release holder tag)
  rw [release, hfree.isActive, if_neg Bool.false_ne_true]
  split <;> rename_i hprocess <;> rw [hprocess] at hreads hok
  · exact ⟨read, count, hreads.channel, fun hok => nomatch hok⟩
  · rename_i s'
    obtain ⟨p, rfl, rfl, hsettle⟩ := hok _ rfl
    obtain ⟨_, _, hp, _, hbody⟩ := Entry.settle_ok_cases hsettle
    have hp : p.entry = .release holder tag := by
      cases hbody with
      | release => exact hp
    obtain ⟨read, count, hnext, hturn⟩ := handOver_reads hreads.replays
    refine ⟨_, _, hreads.channel.trans hnext, ?_⟩
    intro hsucceeds
    rcases hturn hsucceeds with ⟨q, next, callerClass, rfl, rfl, hq, hslot, hschedule⟩ |
      ⟨rfl, rfl, hend, hschedule⟩
    · refine ⟨_, p.spells.append q.spells, rfl, .inl ⟨next, callerClass, ?_, hslot, ?_⟩⟩
      · rw [hp, hq]
        rfl
      · rw [hschedule]
        rfl
    · refine ⟨_, p.spells.append spells_nil, rfl, .inr ⟨?_, hend, ?_⟩⟩
      · rw [hp]
        rfl
      · rw [hschedule]
        rfl

theorem exitThread_accounts {s : Session} (h : s.Replays) (holder : ThreadId) :
    s.AccountsTurn (s.exitThread holder).2 (s.exitThread holder).1 holder .exitThread := by
  rw [exitThread]
  split
  · exact ⟨[], 0, h.reads_refl.channel, fun hok => nomatch hok⟩
  · obtain ⟨read, count, hreads, hok⟩ := release_accounts h holder .exitThread
    split <;> rename_i hrelease <;> rw [hrelease] at hreads hok
    · exact ⟨read, count, hreads, fun hok => nomatch hok⟩
    · split
      · exact ⟨read, count, hreads, hok⟩
      · exact ⟨read, count, hreads, hok⟩

end Session

end Retrace
