import Retrace.Proofs.Session.CutReplay
import Retrace.Proofs.Session.FaithfulReplay

namespace Retrace

open Log

namespace Session

/-- The log goes on with a creation by the thread that runs: in which slot, by which number the new
thread was known, and what comes behind it. -/
def Announces (s : Session) (recordedChild : ThreadId) (shown : KernelTid) (rest : Bytes) : Prop :=
  ∃ p : Passage, s.unread = p.bytes ++ rest ∧
    p.entry = ⟨s.running, .threadCreate recordedChild shown⟩

structure HasFree (s : Session) (slot : ThreadId) : Prop where
  valid : slot.isValid
  inTable : slot.index < slotLimit
  unoccupied : s.identities.occupies slot = false

/-- A slot got both numbers of a thread; every other slot, and whose turn it is, is as before. -/
structure Installs (s : Session) (child : ThreadId) (shown kernel : KernelTid) (s' : Session) :
    Prop where
  installed : s'.identities.get? child = some { recorded := some shown, kernel := some kernel }
  others : ∀ slot, slot ≠ child → s'.identities.get? slot = s.identities.get? slot
  running : s'.running = s.running
  schedule : s'.schedule = s.schedule

section creation

variable {s s' : Session} {parent child : ThreadId} {kernel shown : KernelTid}

theorem notClosed_of_process {template entry : Entry} (h : s.process template = (.ok entry, s')) :
    s.isClosed = false := by
  rw [process] at h
  split at h
  · cases h
  · rename_i hopen
    exact Bool.eq_false_iff.mpr hopen

theorem threadCreate_ok (h : s.Replays)
    (hok : s.threadCreate parent child kernel = (.ok shown, s')) :
    s.isClosed = false ∧ parent = s.running ∧ s.HasFree child ∧
      (∃ recordedChild, recordedChild.index < slotLimit ∧
        s.Announces recordedChild shown s'.unread) ∧
      s.Installs child shown kernel s' := by
  rw [threadCreate, h.isActive, if_neg Bool.false_ne_true] at hok
  split at hok
  · cases hok
  · rename_i hrunning
    split at hok <;> rename_i hprocess
    · cases hok
    · rename_i resolved s₁
      obtain ⟨channel, _, hchannel⟩ := s.process_channel ⟨s.running, .threadCreate child kernel⟩
      obtain ⟨read, count, hreads, hentry⟩ := process_reads h ⟨s.running, .threadCreate child kernel⟩
      rw [hprocess] at hchannel hreads hentry
      obtain ⟨p, rfl, rfl, hsettle⟩ := hentry resolved rfl
      obtain ⟨_, _, hp, rfl, hbody⟩ := Entry.settle_ok_cases hsettle
      cases hbody with
      | threadCreate _ recordedChild _ recorded hslot =>
        have hunread := unread_of_reads hreads.channel
        have hsame : s₁ = { s with channel } := hchannel
        have hidentities : s₁.identities = s.identities := by rw [hsame]
        rw [hreads.replays.mode_eq] at hok
        dsimp only at hok
        rw [identify] at hok
        split at hok <;> rename_i hcreate
        · obtain ⟨hvalid, hinTable, hfree, hinstalled, hothers⟩ := IdentityTable.create_ok hcreate
          rw [hidentities] at hfree hothers
          cases hok
          exact ⟨notClosed_of_process hprocess, eq_running_of_checkRunning hrunning,
            ⟨hvalid, hinTable, hfree⟩, ⟨recordedChild, hslot, p, hunread, hp⟩,
            ⟨hinstalled, hothers, hreads.running, hreads.schedule⟩⟩
        · cases hok

theorem threadCreate_of_announces (h : s.Replays) (hopen : s.isClosed = false)
    (hfree : s.HasFree child) {recordedChild : ThreadId} (hslot : recordedChild.index < slotLimit)
    {rest : Bytes} (hannounces : s.Announces recordedChild shown rest) (kernel : KernelTid) :
    ∃ next, s.threadCreate s.running child kernel = (.ok shown, next) := by
  obtain ⟨filled, hfaces, hfilled⟩ := h.exists_faces hopen
  obtain ⟨p, hunread, hp⟩ := hannounces
  rw [hunread] at hfaces
  have hunfilled : child ∉ filled := by
    intro hmem
    exact Bool.false_ne_true (hfree.unoccupied.symm.trans (hfilled child hmem))
  obtain ⟨next, hcall, _⟩ := threadCreate_replays hfaces (Passage.logged_of_entry hp rfl) hslot
    hfree.valid hfree.inTable hunfilled kernel
  exact ⟨next, hcall⟩

end creation

end Session

namespace Token

/-- In every state of a replay a creation succeeds exactly if the thread that runs makes it, its slot is
free, and the log goes on with a creation by that thread in any slot of the tables. It then gives the
recorded number, has read that entry, and fills its own slot and no other one: the recorded slot is
not compared with it. -/
theorem creation_fills_live_slot (log : Bytes) (config : Config) (layout : Guest.RegisterLayout)
    (steps : List Step) (parent child : ThreadId) (kernel shown : KernelTid) :
    let s := ((replaying log config layout).run steps).2.session
    let answer := s.threadCreate parent child kernel
    (answer.1 = .ok shown ↔ s.isClosed = false ∧ parent = s.running ∧ s.HasFree child ∧
      ∃ recordedChild rest, recordedChild.index < slotLimit ∧
        s.Announces recordedChild shown rest) ∧
    (answer.1 = .ok shown → s.Installs child shown kernel answer.2 ∧
      ∃ recordedChild, s.Announces recordedChild shown answer.2.unread) := by
  have h := run_replays (replaying_replays log config layout) steps
  have hsound {answer : Except SessionError KernelTid × Session}
      (hanswer : Session.threadCreate _ parent child kernel = answer)
      (hok : answer.1 = .ok shown) :=
    Session.threadCreate_ok h (hanswer.trans (Prod.ext hok rfl))
  refine ⟨⟨?_, ?_⟩, ?_⟩
  · intro hok
    obtain ⟨hopen, hparent, hfree, ⟨recordedChild, hslot, hannounces⟩, _⟩ := hsound rfl hok
    exact ⟨hopen, hparent, hfree, recordedChild, _, hslot, hannounces⟩
  · rintro ⟨hopen, rfl, hfree, recordedChild, rest, hslot, hannounces⟩
    obtain ⟨next, hcall⟩ :=
      Session.threadCreate_of_announces h hopen hfree hslot hannounces kernel
    exact congrArg Prod.fst hcall
  · intro hok
    obtain ⟨_, _, _, ⟨recordedChild, _, hannounces⟩, hinstalls⟩ := hsound rfl hok
    exact ⟨hinstalls, recordedChild, hannounces⟩

def creationLog : Bytes := Entry.encode ⟨.main, .threadCreate ⟨3⟩ ⟨77⟩⟩

def creationReplay : Session :=
  ((replaying creationLog {} .x86).run [.acquire .main .normal fun _ _ => true]).2.session

theorem creation_fills_live_slot_same :
    creationReplay.Installs ⟨3⟩ ⟨77⟩ ⟨5⟩ (creationReplay.threadCreate .main ⟨3⟩ ⟨5⟩).2 := by
  obtain ⟨_, hinstalls⟩ := creation_fills_live_slot creationLog {} .x86
    [.acquire .main .normal fun _ _ => true] .main ⟨3⟩ ⟨5⟩ ⟨77⟩
  exact (hinstalls (by decide +kernel)).1

/-- A replay that makes the thread in slot 2 is not refused: the recorded number goes to slot 2, and
slot 3 stays free. -/
theorem creation_moved :
    creationReplay.Announces ⟨3⟩ ⟨77⟩ [] ∧
      (creationReplay.threadCreate .main ⟨2⟩ ⟨5⟩).1 = .ok ⟨77⟩ ∧
      (creationReplay.threadCreate .main ⟨2⟩ ⟨5⟩).2.identities.get? ⟨2⟩ =
        some { recorded := some ⟨77⟩, kernel := some ⟨5⟩ } ∧
      (creationReplay.threadCreate .main ⟨2⟩ ⟨5⟩).2.identities.get? ⟨3⟩ = some {} := by
  refine ⟨⟨.ofEntry ⟨.main, .threadCreate ⟨3⟩ ⟨77⟩⟩ [] rfl, ?_, rfl⟩, ?_, ?_, ?_⟩
  · decide +kernel
  · decide +kernel
  · decide +kernel
  · decide +kernel

end Token

end Retrace
