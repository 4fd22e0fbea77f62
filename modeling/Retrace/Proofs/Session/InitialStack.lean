import Retrace.Proofs.Guest.Ranges
import Retrace.Proofs.Log.Footprint
import Retrace.Proofs.Session.Installing

namespace Retrace

open Log

def Guest.StackImage.below (stackTop : UInt64) (size : UInt32) (auxv : UInt64) : Guest.StackImage where
  initialSp := stackTop - size.toUInt64
  auxv
  stackEnd := stackTop
  stackBase := Guest.pageDown (stackTop - size.toUInt64)

namespace Session

/-- The log goes on with an initial stack of the thread that runs: how large, where its auxiliary vector
is, and what comes behind the entry. -/
def AnnouncesStack (s : Session) (size : UInt32) (auxv : UInt64) (rest : Bytes) : Prop :=
  ∃ p : Passage, s.unread = p.bytes ++ rest ∧ p.entry = ⟨s.running, .initClientStack size auxv⟩

/-- What a replayed call leaves of the image and the memory of an initial stack. -/
inductive LeavesStack (s : Session) (stackTop : UInt64) (image : Guest.StackImage)
    (memory : Guest.Memory) :
    Except SessionError Unit → Guest.StackImage → Guest.Memory → Session → Prop
  /-- No stack is announced that fits below the top. -/
  | untouched {e : SessionError} {s' : Session}
      (unannounced : s.isClosed ∨ stackTop = 0 ∨
        ∀ size auxv rest, s.AnnouncesStack size auxv rest → stackTop.toNat < size.toNat) :
      LeavesStack s stackTop image memory (.error e) image memory s'
  /-- The announced image is installed, and its bytes at most in part. -/
  | torn {size : UInt32} {auxv : UInt64} {rest : Bytes} {e : SessionError} {memory' : Guest.Memory}
      {s' : Session} (opened : s.isClosed = false) (top : stackTop ≠ 0)
      (announced : s.AnnouncesStack size auxv rest) (fits : size.toNat ≤ stackTop.toNat)
      (outside : memory.SameOutside (stackTop.toNat - size.toNat) stackTop.toNat memory') :
      LeavesStack s stackTop image memory (.error e) (.below stackTop size auxv) memory' s'
  | installed {size : UInt32} {auxv addr : UInt64} {q : Passage} {memory' : Guest.Memory}
      {s' : Session} (announced : s.AnnouncesStack size auxv (q.bytes ++ s'.unread))
      (fits : size.toNat ≤ stackTop.toNat) (stack : q.entry = .data s.running size.toNat addr)
      (held : memory'.read? (stackTop - size.toUInt64) size.toNat = some q.payload)
      (outside : memory.SameOutside (stackTop.toNat - size.toNat) stackTop.toNat memory') :
      LeavesStack s stackTop image memory (.ok ()) (.below stackTop size auxv) memory' s'

section failure

variable {s s' : Session} {e : SessionError}

theorem syscallRet_error {value value' : UInt64}
    (herror : s.syscallRet value = (.error e, value', s')) : value' = value := by
  rw [syscallRet] at herror
  split at herror
  · cases herror
  · split at herror
    · cases herror
      rfl
    all_goals cases herror

theorem initMemLayout_error {vstart stackTop vstart' stackTop' : UInt64}
    (herror : s.initMemLayout vstart stackTop = (.error e, vstart', stackTop', s')) :
    vstart' = vstart ∧ stackTop' = stackTop := by
  rw [initMemLayout] at herror
  split at herror
  · cases herror
  · split at herror
    · cases herror
      exact ⟨rfl, rfl⟩
    · split at herror
      · cases herror
        exact ⟨rfl, rfl⟩
      · cases herror
    · cases herror

end failure

section stack

variable {s s' : Session}

theorem length_processData (s : Session) (template : Entry) (buffer : Bytes) :
    (s.processData template buffer).2.1.length = buffer.length := by
  rw [processData]
  split
  · rfl
  · cases s.channel with
    | inactive => rfl
    | record writer =>
      dsimp only
      rw [Channel.processData]
      split
      · rfl
      · rfl
    | replay reader =>
      have hlength := reader.length_resolveData template buffer
      dsimp only
      rw [Channel.processData]
      split <;> rename_i hresolve
      · rw [hresolve] at hlength
        exact hlength
      · rw [hresolve] at hlength
        exact hlength

theorem processStack_outside (s : Session) (addr : UInt64) (size : UInt32) (memory : Guest.Memory) :
    memory.SameOutside addr.toNat (addr.toNat + size.toNat) (s.processStack addr size memory).2.1 := by
  rw [processStack]
  split
  · exact .refl _ _ _
  · rename_i bytes hread
    have hlength := s.length_processData (.data s.running size.toNat addr) bytes
    rw [Guest.Memory.length_of_read? hread] at hlength
    obtain ⟨start, hoffset, _⟩ := Guest.Memory.read?_eq_some hread
    have hwrite {filled : Bytes} (h : filled.length = size.toNat) :
        memory.SameOutside addr.toNat (addr.toNat + size.toNat) (memory.write addr filled) := by
      rw [← h] at hoffset ⊢
      exact Guest.Memory.write_sameOutside hoffset
    split <;> rename_i hprocess <;> rw [hprocess] at hlength
    · exact hwrite hlength
    · exact hwrite hlength

theorem processStack_ok (h : s.Replays) {addr : UInt64} {size : UInt32}
    {memory memory' : Guest.Memory}
    (hok : s.processStack addr size memory = (.ok (), memory', s')) :
    ∃ (q : Passage) (recordedAddr : UInt64), s.unread = q.bytes ++ s'.unread ∧
      q.entry = .data s.running size.toNat recordedAddr ∧
      memory'.read? addr size.toNat = some q.payload := by
  rw [processStack] at hok
  split at hok <;> rename_i hread
  · cases hok
  · rename_i bytes
    split at hok <;> rename_i hprocess
    · cases hok
    · rename_i entry filled s₁
      cases hok
      obtain ⟨start, hoffset, _⟩ := Guest.Memory.read?_eq_some hread
      obtain ⟨q, rfl, hlength, hsettle, htakes⟩ := processData_takes h hprocess
      rw [Guest.Memory.length_of_read? hread] at hlength
      obtain ⟨_, _, hq, _, hbody⟩ := Entry.settle_ok_cases hsettle
      rw [← hlength] at hoffset
      have hheld := Guest.Memory.read?_write q.payload hoffset
      rw [hlength] at hheld
      cases hbody with
      | data _ _ recordedAddr => exact ⟨q, recordedAddr, htakes.unread_singleton, hq, hheld⟩

/-- What a session reads where it asks for an initial stack: the one that is announced, if any. -/
inductive ReadsStack (s : Session) : Except SessionError Entry → Session → Prop
  | unannounced {e : SessionError} {s₁ : Session}
      (unannounced : s.isClosed ∨ ∀ size auxv rest, ¬s.AnnouncesStack size auxv rest) :
      ReadsStack s (.error e) s₁
  | announced {size : UInt32} {auxv : UInt64} {s₁ : Session} (opened : s.isClosed = false)
      (announced : s.AnnouncesStack size auxv s₁.unread)
      (only : ∀ size' auxv' rest, s.AnnouncesStack size' auxv' rest → size' = size)
      (replays : s₁.Replays) (running : s₁.running = s.running) :
      ReadsStack s (.ok ⟨s.running, .initClientStack size auxv⟩) s₁

theorem process_of_announcesStack (h : s.Replays) (hopen : s.isClosed = false) {size : UInt32}
    {auxv : UInt64} {rest : Bytes} (hannounced : s.AnnouncesStack size auxv rest) (live : UInt64) :
    (s.process ⟨s.running, .initClientStack 0 live⟩).1 =
      .ok ⟨s.running, .initClientStack size auxv⟩ := by
  obtain ⟨filled, hfaces, _⟩ := h.exists_faces hopen
  obtain ⟨p, hunread, hp⟩ := hannounced
  rw [hunread] at hfaces
  obtain ⟨s', hprocess, _⟩ := process_replays hfaces (Passage.logged_of_entry hp rfl) rfl
    (.initClientStack 0 size live auxv)
  rw [hprocess]

theorem process_readsStack (h : s.Replays) (live : UInt64) :
    s.ReadsStack (s.process ⟨s.running, .initClientStack 0 live⟩).1
      (s.process ⟨s.running, .initClientStack 0 live⟩).2 := by
  have hreads (hopen : s.isClosed = false) {size : UInt32} {auxv : UInt64} {rest : Bytes}
      (hannounced : s.AnnouncesStack size auxv rest) :=
    process_of_announcesStack h hopen hannounced live
  have hstays := s.process_stays ⟨s.running, .initClientStack 0 live⟩
  rcases hprocess : s.process ⟨s.running, .initClientStack 0 live⟩ with ⟨e | entry, s₁⟩
  · rw [hprocess] at hreads
    by_cases hclosed : s.isClosed
    · exact .unannounced (.inl hclosed)
    · refine .unannounced (.inr ?_)
      intro size auxv rest hannounced
      cases hreads (Bool.eq_false_iff.mpr hclosed) hannounced
  · rw [hprocess] at hreads hstays
    have hopen := notClosed_of_process hprocess
    obtain ⟨p, htakes, hsettle⟩ := process_takes h hprocess
    obtain ⟨_, _, hp, rfl, hbody⟩ := Entry.settle_ok_cases hsettle
    cases hbody with
    | initClientStack _ size _ auxv =>
      refine .announced hopen ⟨p, htakes.unread_singleton, hp⟩ ?_ htakes.replays hstays.running
      intro size' auxv' rest hannounced
      cases hreads hopen hannounced
      rfl

theorem leaves_of_fits {s₁ : Session} (h : s₁.Replays) (hrunning : s₁.running = s.running)
    {stackTop auxv : UInt64} {size : UInt32} {image : Guest.StackImage}
    {memory memory' : Guest.Memory} {result : Except SessionError Unit} (hopen : s.isClosed = false)
    (htop : stackTop ≠ 0) (hannounced : s.AnnouncesStack size auxv s₁.unread)
    (hfits : size.toNat ≤ stackTop.toNat)
    (hstack : s₁.processStack (stackTop - size.toUInt64) size memory = (result, memory', s')) :
    s.LeavesStack stackTop image memory result (.below stackTop size auxv) memory' s' := by
  have hle : size.toUInt64 ≤ stackTop := by
    rw [UInt64.le_iff_toNat_le, UInt32.toNat_toUInt64]
    exact hfits
  have hsp : (stackTop - size.toUInt64).toNat = stackTop.toNat - size.toNat := by
    rw [UInt64.toNat_sub_of_le _ _ hle, UInt32.toNat_toUInt64]
  have houtside := s₁.processStack_outside (stackTop - size.toUInt64) size memory
  rw [hsp, Nat.sub_add_cancel hfits, hstack] at houtside
  cases result with
  | error e => exact .torn hopen htop hannounced hfits houtside
  | ok =>
    obtain ⟨q, addr, hrest, hq, hheld⟩ := processStack_ok h hstack
    rw [hrest] at hannounced
    rw [hrunning] at hq
    exact .installed hannounced hfits hq hheld houtside

theorem initClientStack_leaves (h : s.Replays) {stackTop : UInt64} {image image' : Guest.StackImage}
    {memory memory' : Guest.Memory} {result : Except SessionError Unit}
    (hcall : s.initClientStack stackTop image memory = (result, image', memory', s')) :
    s.LeavesStack stackTop image memory result image' memory' s' := by
  have hrecord : Mode.replay.isRecord = false := rfl
  have hreplay : Mode.replay.isReplay = true := rfl
  rw [initClientStack, h.isActive, if_neg Bool.false_ne_true, h.mode_eq, hrecord] at hcall
  simp only [Bool.false_eq_true, ↓reduceIte] at hcall
  split at hcall
  · rename_i htop
    cases hcall
    exact .untouched (.inr (.inl htop))
  · rename_i htop
    have hreads := process_readsStack h image.auxv
    generalize s.process ⟨s.running, .initClientStack 0 image.auxv⟩ = reading at hreads hcall
    obtain ⟨found, s₁⟩ := reading
    cases hreads with
    | unannounced unannounced =>
      cases hcall
      refine .untouched (unannounced.imp_right fun hnone => .inr ?_)
      intro size auxv rest hannounced
      exact (hnone size auxv rest hannounced).elim
    | @announced size auxv _ hopen hannounced honly hreplays hrunning =>
      have hsize : size.toUInt64 ≤ stackTop ↔ size.toNat ≤ stackTop.toNat := by
        rw [UInt64.le_iff_toNat_le, UInt32.toNat_toUInt64]
      dsimp only at hcall
      rw [hreplays.mode_eq, hreplay, if_pos rfl, recordedImage?] at hcall
      by_cases hfits : size.toNat ≤ stackTop.toNat
      · rw [if_pos (hsize.mpr hfits)] at hcall
        dsimp only at hcall
        rcases hstack : s₁.processStack (stackTop - size.toUInt64) size memory
          with ⟨result, memory₁, s₂⟩
        rw [hstack] at hcall
        cases hcall
        exact leaves_of_fits hreplays hrunning hopen htop hannounced hfits hstack
      · rw [if_neg (fun hle => hfits (hsize.mp hle))] at hcall
        cases hcall
        refine .untouched (.inr (.inr ?_))
        intro size' auxv' rest hannounced'
        rw [honly size' auxv' rest hannounced']
        exact Nat.lt_of_not_le hfits

end stack

end Session

namespace Token

/-- In every state of a replay, a call that fails gives back the value that the kernel returned and the
layout of the memory as they were. One that brings an initial stack changes no byte outside the
recorded range. It fails with the image as it was if no stack is announced that fits below the top, and
else has installed the announced image, also if it fails; if it succeeds, the recorded bytes stand in
the range. -/
theorem failed_values_kept_but_image {log : Bytes} {config : Config} {layout : Guest.RegisterLayout}
    {steps : List Step} {outcomes : List Outcome} {t : Token}
    (hrun : (replaying log config layout).run steps = (outcomes, t)) :
    (∀ value e value' s', t.session.syscallRet value = (.error e, value', s') → value' = value) ∧
    (∀ vstart stackTop e vstart' stackTop' s',
      t.session.initMemLayout vstart stackTop = (.error e, vstart', stackTop', s') →
        vstart' = vstart ∧ stackTop' = stackTop) ∧
    ∀ stackTop image memory result image' memory' s',
      t.session.initClientStack stackTop image memory = (result, image', memory', s') →
        t.session.LeavesStack stackTop image memory result image' memory' s' := by
  have hreplays := run_replays (replaying_replays log config layout) steps
  rw [hrun] at hreplays
  refine ⟨fun _ _ _ _ => Session.syscallRet_error, fun _ _ _ _ _ _ => Session.initMemLayout_error, ?_⟩
  intro stackTop image memory result image' memory' s' hcall
  exact Session.initClientStack_leaves hreplays hcall

def stackLog : Bytes :=
  Entry.encode ⟨.main, .initClientStack 2 0x77⟩ ++ (Entry.encode (.data .main 2 0) ++ [1, 2])

def stackReplay : Token :=
  ((replaying stackLog {} .x86).run [.acquire .main .normal fun _ _ => true]).2

/-- A value is given back, since the log does not go on with one, and the stack is installed. -/
theorem failed_values_kept_but_image_whole :
    let value := stackReplay.session.syscallRet 3
    let stack := stackReplay.session.initClientStack 4096 ⟨5, 6, 7, 8⟩ ⟨4093, [9, 9, 9]⟩
    value.1 = .error (.desync (.kindMismatch .syscallRet .initClientStack)) ∧ value.2.1 = 3 ∧
      stack.1 = .ok () ∧ stack.2.1 = ⟨4094, 0x77, 4096, 0⟩ ∧ stack.2.2.1 = ⟨4093, [9, 1, 2]⟩ ∧
      stackReplay.session.LeavesStack 4096 ⟨5, 6, 7, 8⟩ ⟨4093, [9, 9, 9]⟩ stack.1 stack.2.1
        stack.2.2.1 stack.2.2.2 := by
  intro value stack
  have hrun : (replaying stackLog {} .x86).run [.acquire .main .normal fun _ _ => true] =
      (((replaying stackLog {} .x86).run [.acquire .main .normal fun _ _ => true]).1, stackReplay) :=
    rfl
  obtain ⟨hvalue, _, hstack⟩ := failed_values_kept_but_image hrun
  have herror : value.1 = .error (.desync (.kindMismatch .syscallRet .initClientStack)) := by
    decide +kernel
  have hresult : stack.1 = .ok () ∧ stack.2.1 = ⟨4094, 0x77, 4096, 0⟩ ∧
      stack.2.2.1 = ⟨4093, [9, 1, 2]⟩ := by decide +kernel
  exact ⟨herror, hvalue _ _ _ _ (Prod.ext herror rfl), hresult.1, hresult.2.1, hresult.2.2,
    hstack _ _ _ _ _ _ _ rfl⟩

/-- The memory of the stack cannot be reached, and the image was replaced all the same. -/
theorem failed_stack_installs_image :
    let answer := stackReplay.session.initClientStack 4096 ⟨5, 6, 7, 8⟩ ⟨0, []⟩
    answer.1 = .error (.guestMemory 4094 2) ∧ answer.2.1 = ⟨4094, 0x77, 4096, 0⟩ := by
  decide +kernel

end Token

end Retrace
