import Retrace.Proofs.Guest.Ranges
import Retrace.Proofs.Session.Recording

namespace Retrace

open Log

theorem Utf8.length_encodeText_pos {text : String} (h : text ≠ "") :
    0 < (encodeText text).length := by
  rw [encodeText, encode]
  cases hchars : text.toList with
  | nil => exact (h (String.toList_eq_nil_iff.mp hchars)).elim
  | cons c cs =>
    rw [List.flatMap_cons, List.length_append, String.length_utf8EncodeChar]
    exact Nat.lt_of_lt_of_le c.utf8Size_pos (Nat.le_add_right _ _)

theorem counter_of_halves (counter : UInt64) :
    ((counter >>> 32).toUInt32.toUInt64 <<< 32) ||| counter.toUInt32.toUInt64 = counter := by
  have hlow : counter.toNat % 2 ^ 32 < 2 ^ 32 := Nat.mod_lt _ (by decide)
  have hhigh : counter.toNat / 2 ^ 32 < 2 ^ 32 := by
    have := counter.toNat_lt
    omega
  have hfits : (counter.toNat / 2 ^ 32) <<< 32 < 2 ^ 64 := by
    rw [Nat.shiftLeft_eq]
    omega
  apply UInt64.toNat_inj.mp
  simp only [UInt64.toNat_or, UInt64.toNat_shiftLeft, UInt32.toNat_toUInt64,
    UInt64.toNat_toUInt32, UInt64.toNat_shiftRight, UInt64.reduceToNat, Nat.reduceMod]
  rw [Nat.shiftRight_eq_div_pow, Nat.mod_eq_of_lt hhigh, Nat.mod_eq_of_lt hfits,
    ← Nat.shiftLeft_add_eq_or_of_lt hlow, Nat.shiftLeft_eq]
  omega

theorem Session.toNat_of_stackSize? {stackTop initialSp : UInt64} {size : UInt32}
    (h : stackSize? stackTop initialSp = some size) :
    initialSp ≤ stackTop ∧ size.toNat = (stackTop - initialSp).toNat := by
  rw [stackSize?] at h
  split at h
  · rename_i hfits
    cases h
    exact ⟨hfits.1, by rw [UInt64.toNat_toUInt32, Nat.mod_eq_of_lt hfits.2]⟩
  · cases h

theorem Session.recordedImage?_of_stackSize? {stackTop initialSp : UInt64} {size : UInt32}
    (h : stackSize? stackTop initialSp = some size) (auxv : UInt64) :
    recordedImage? stackTop size auxv = some {
      initialSp, auxv, stackEnd := stackTop, stackBase := Guest.pageDown initialSp } := by
  obtain ⟨hle, hnat⟩ := toNat_of_stackSize? h
  have hsub : (stackTop - initialSp).toNat = stackTop.toNat - initialSp.toNat :=
    UInt64.toNat_sub_of_le _ _ hle
  have hle : initialSp.toNat ≤ stackTop.toNat := UInt64.le_iff_toNat_le.mp hle
  have hsize : size.toUInt64 = stackTop - initialSp := by
    apply UInt64.toNat_inj.mp
    rw [UInt32.toNat_toUInt64, hnat]
  have hbelow : stackTop - initialSp ≤ stackTop := by
    rw [UInt64.le_iff_toNat_le, hsub]
    omega
  have hback : stackTop - (stackTop - initialSp) = initialSp := by
    apply UInt64.toNat_inj.mp
    rw [UInt64.toNat_sub_of_le _ _ hbelow, hsub]
    omega
  rw [recordedImage?, hsize, if_pos hbelow, hback]

/-- Two calls that are made alike: they agree in what a replay has to repeat, while the other values
they bring are whatever they are. The memory a stack is installed in has room for the recorded one. -/
inductive Call.Alike : Call → Call → Prop
  | clientCmdline (recorded live : Guest.CommandLine) :
    Alike (.clientCmdline recorded) (.clientCmdline live)
  | threadCreate (parent child : ThreadId) (kernel kernel' : KernelTid) :
    Alike (.threadCreate parent child kernel) (.threadCreate parent child kernel')
  | syscallArgs (thread : ThreadId) (sysno : UInt32) {registers registers' : Bytes}
      (length_eq : registers'.length = registers.length) :
      Alike (.syscallArgs thread sysno registers) (.syscallArgs thread sysno registers')
  | syscallRet (value value' : UInt64) : Alike (.syscallRet value) (.syscallRet value')
  | syscallMem {regions regions' : List Guest.Memory}
      (lengths_eq : List.Forall₂ (fun region region' =>
        region'.bytes.length = region.bytes.length) regions regions') :
      Alike (.syscallMem regions) (.syscallMem regions')
  | dispatchCounter (before : Bool) (counter counter' : UInt64) :
    Alike (.dispatchCounter counter before) (.dispatchCounter counter' before)
  | initMemLayout (vstart stackTop vstart' stackTop' : UInt64) :
    Alike (.initMemLayout vstart stackTop) (.initMemLayout vstart' stackTop')
  | initClientStack (stackTop : UInt64) {image image' : Guest.StackImage}
      {memory memory' : Guest.Memory}
      (room : (memory'.read? image.initialSp (stackTop - image.initialSp).toNat).isSome) :
      Alike (.initClientStack stackTop image memory) (.initClientStack stackTop image' memory')
  | initGuestState {registers registers' : Bytes}
      (length_eq : registers'.length = registers.length) :
      Alike (.initGuestState registers) (.initGuestState registers')
  | snapshot {registers registers' : Bytes} (length_eq : registers'.length = registers.length) :
      Alike (.snapshot registers) (.snapshot registers')
  | timestamp (counter counter' : UInt64) : Alike (.timestamp counter) (.timestamp counter')
  | registerProbe (slot : ThreadId) (probe probe' : ExitProbe) :
    Alike (.registerProbe slot probe) (.registerProbe slot probe')

/-- What a replay answers to a live call, given the recorded one: the recorded values wherever the
program reads one back. -/
def Call.replayed : Call → Call → Reply
  | .clientCmdline recorded, live =>
    { result := .ok (.commandLine (.parse (Utf8.encodeText recorded.joined))), call := live }
  | .threadCreate _ _ recorded, live => { result := .ok (.kernelTid recorded), call := live }
  | .syscallRet recorded, _ => { result := .ok .done, call := .syscallRet recorded }
  | .syscallMem recorded, .syscallMem live =>
    { result := .ok .done
      call := .syscallMem (live.zipWith (fun region r => { region with bytes := r.bytes }) recorded) }
  | .initMemLayout vstart stackTop, _ =>
    { result := .ok .done, call := .initMemLayout vstart stackTop }
  | .initClientStack stackTop image memory, .initClientStack _ _ live =>
    let size := (stackTop - image.initialSp).toNat
    { result := .ok .done
      call := .initClientStack stackTop
        { image with stackEnd := stackTop, stackBase := Guest.pageDown image.initialSp }
        (live.write image.initialSp ((memory.read? image.initialSp size).getD [])) }
  | .timestamp recorded, live => { result := .ok (.counter recorded), call := live }
  | _, live => { result := .ok .done, call := live }

/-- The slots that a call fills. -/
def Call.fills : Call → List ThreadId
  | .threadCreate _ child _ => [child]
  | _ => []

theorem Call.Alike.fills_eq {recorded live : Call} (h : recorded.Alike live) :
    live.fills = recorded.fills := by
  cases h <;> rfl

namespace Session

/-- An open session in front of the rest of a log that it replays, with numbers in some slots only. -/
structure Faces (s : Session) (rest : Bytes) (filled : List ThreadId) : Prop where
  channel : ∃ offset resolved, s.channel = .replay (.plain rest offset resolved)
  notClosed : s.isClosed = false
  occupied : ∀ slot, s.identities.occupies slot → slot ∈ filled

structure Reaches (s : Session) (count : Nat) (rest : Bytes) (filled : List ThreadId)
    (s' : Session) : Prop where
  faces : s'.Faces rest filled
  entries : s'.channel.entries = s.channel.entries + count
  running : s'.running = s.running
  schedule : s'.schedule = s.schedule
  layout : s'.verifier.layout = s.verifier.layout

theorem Faces.replays {s : Session} {rest : Bytes} {filled : List ThreadId}
    (h : s.Faces rest filled) : s.Replays := by
  obtain ⟨offset, resolved, hs⟩ := h.channel
  exact ⟨rest, offset, resolved, hs⟩

theorem Faces.unread_eq {s : Session} {rest : Bytes} {filled : List ThreadId}
    (h : s.Faces rest filled) : s.unread = rest := by
  obtain ⟨offset, resolved, hs⟩ := h.channel
  rw [Session.unread, hs]
  rfl

theorem Replays.exists_faces {s : Session} (h : s.Replays) (hopen : s.isClosed = false) :
    ∃ filled, s.Faces s.unread filled ∧ ∀ slot ∈ filled, s.identities.occupies slot := by
  obtain ⟨rest, offset, resolved, hs⟩ := h
  let slots : List ThreadId := (List.range slotLimit).map fun n => ⟨UInt32.ofNat n⟩
  refine ⟨slots.filter (s.identities.occupies ·), ⟨⟨offset, resolved, ?_⟩, hopen, ?_⟩, ?_⟩
  · rw [unread, hs]
    rfl
  · intro slot hslot
    have hlisted : slot ∈ slots := by
      refine List.mem_map.mpr
        ⟨slot.index, List.mem_range.mpr (IdentityTable.lt_of_occupies hslot), ?_⟩
      rw [ThreadId.index, UInt32.ofNat_toNat]
    exact List.mem_filter.mpr ⟨hlisted, hslot⟩
  · intro slot hslot
    exact (List.mem_filter.mp hslot).2

theorem Faces.isReplay {s : Session} {rest : Bytes} {filled : List ThreadId}
    (h : s.Faces rest filled) : s.mode.isReplay = true := by
  rw [h.replays.mode_eq]
  rfl

theorem Faces.isRecord {s : Session} {rest : Bytes} {filled : List ThreadId}
    (h : s.Faces rest filled) : s.mode.isRecord = false := by
  rw [h.replays.mode_eq]
  rfl

theorem Reaches.trans {s s' s'' : Session} {count count' : Nat} {rest rest' : Bytes}
    {filled filled' : List ThreadId} (h : s.Reaches count rest filled s')
    (h' : s'.Reaches count' rest' filled' s'') : s.Reaches (count + count') rest' filled' s'' where
  faces := h'.faces
  entries := by rw [h'.entries, h.entries, Nat.add_assoc]
  running := h'.running.trans h.running
  schedule := h'.schedule.trans h.schedule
  layout := h'.layout.trans h.layout

theorem Faces.reaches_refl {s : Session} {rest : Bytes} {filled : List ThreadId}
    (h : s.Faces rest filled) : s.Reaches 0 rest filled s := ⟨h, rfl, rfl, rfl, rfl⟩

theorem compare_layout (s : Session) (live recorded : Bytes) :
    (s.compare live recorded).verifier.layout = s.verifier.layout := by
  change (s.verifier.compare s.running live recorded).2.2.layout = s.verifier.layout
  rw [Verifier.compare]
  dsimp only
  split
  · rfl
  · rfl

theorem Reaches.compare {s s' : Session} {count : Nat} {rest : Bytes} {filled : List ThreadId}
    (h : s.Reaches count rest filled s') (live recorded : Bytes) :
    s.Reaches count rest filled (s'.compare live recorded) where
  faces := ⟨h.faces.channel, h.faces.notClosed, h.faces.occupied⟩
  entries := h.entries
  running := h.running
  schedule := h.schedule
  layout := (compare_layout s' live recorded).trans h.layout

theorem reaches_of_reader {s : Session} {rest : Bytes} {filled : List ThreadId}
    {offset resolved offset' : Nat} {read : Bytes} (h : s.Faces (read ++ rest) filled)
    (hs : s.channel = .replay (.plain (read ++ rest) offset resolved)) :
    s.Reaches 1 rest filled { s with channel := .replay (.plain rest offset' (resolved + 1)) } := by
  refine ⟨⟨⟨_, _, rfl⟩, h.notClosed, h.occupied⟩, ?_, rfl, rfl, rfl⟩
  rw [hs]
  rfl

section passage

variable {s : Session} {p : Passage} {tail : Bytes} {filled : List ThreadId} {thread : ThreadId}

theorem process_replays {body body' body'' : Body} (h : s.Faces (p.bytes ++ tail) filled)
    (hlogged : p.logged = (⟨thread, body'⟩, [])) (hkind : body.kind.hasPayload = false)
    (hsettles : body.Settles body' body'') :
    ∃ s', s.process ⟨thread, body⟩ = (.ok ⟨thread, body''⟩, s') ∧ s.Reaches 1 tail filled s' := by
  obtain ⟨offset, resolved, hs⟩ := h.channel
  obtain ⟨hentry, hpayload⟩ := Prod.mk.inj hlogged
  have hsettle : Entry.settle ⟨thread, body⟩ p.entry = .ok ⟨thread, body''⟩ := by
    rw [hentry]
    exact Entry.settle_eq_ok_iff.mpr ⟨rfl, rfl, hsettles⟩
  have hkind : Kind.hasPayload (Entry.kind ⟨thread, body⟩) = false := hkind
  rw [process, h.notClosed, if_neg Bool.false_ne_true, hs, Channel.process]
  dsimp only
  rw [Reader.resolve_passage hpayload hkind, hsettle]
  exact ⟨_, rfl, reaches_of_reader h hs⟩

theorem processData_replays {body body' body'' : Body} {payload buffer : Bytes}
    (h : s.Faces (p.bytes ++ tail) filled) (hlogged : p.logged = (⟨thread, body'⟩, payload))
    (hkind : body.kind = .data ∨ body.kind = .snapshot) (hsettles : body.Settles body' body'')
    (hbuffer : buffer.length = payload.length) :
    ∃ s', s.processData ⟨thread, body⟩ buffer = (.ok ⟨thread, body''⟩, payload, s') ∧
      s.Reaches 1 tail filled s' := by
  obtain ⟨offset, resolved, hs⟩ := h.channel
  obtain ⟨hentry, rfl⟩ := Prod.mk.inj hlogged
  have hsettle : Entry.settle ⟨thread, body⟩ p.entry = .ok ⟨thread, body''⟩ := by
    rw [hentry]
    exact Entry.settle_eq_ok_iff.mpr ⟨rfl, rfl, hsettles⟩
  have hkind : Entry.kind ⟨thread, body⟩ = .data ∨ Entry.kind ⟨thread, body⟩ = .snapshot := hkind
  rw [processData, h.notClosed, if_neg Bool.false_ne_true, hs, Channel.processData]
  dsimp only
  rw [Reader.resolveData_passage hkind hsettle hbuffer]
  exact ⟨_, rfl, reaches_of_reader h hs⟩

theorem clientCmdline_replays {recorded : Guest.CommandLine}
    (h : s.Faces (p.bytes ++ tail) filled) (hne : recorded.joined ≠ "")
    (hlimit : (Utf8.encodeText recorded.joined).length < cmdlineLimit)
    (hlogged : p.logged =
      (⟨s.running, .clientCmdline (UInt32.ofNat (Utf8.encodeText recorded.joined).length)⟩,
        Utf8.encodeText recorded.joined)) (live : Guest.CommandLine) :
    ∃ s', s.clientCmdline live = (.ok (.parse (Utf8.encodeText recorded.joined)), s') ∧
      s.Reaches 1 tail filled s' := by
  obtain ⟨offset, resolved, hs⟩ := h.channel
  obtain ⟨hentry, hpayload⟩ := Prod.mk.inj hlogged
  have hsettle : Entry.settle ⟨s.running, .clientCmdline 0⟩ p.entry = .ok p.entry := by
    rw [hentry]
    exact Entry.settle_eq_ok_iff.mpr ⟨rfl, rfl, .clientCmdline _ _⟩
  have hpos := Utf8.length_encodeText_pos hne
  rw [← hpayload] at hpos hlimit ⊢
  rw [clientCmdline, h.notClosed, if_neg Bool.false_ne_true, hs]
  dsimp only
  rw [Reader.resolveCmdline_passage rfl hsettle hpos hlimit]
  exact ⟨_, rfl, reaches_of_reader h hs⟩

theorem checkRunning_self (s : Session) : s.checkRunning s.running = .ok () := by
  rw [checkRunning, if_neg (fun h => h rfl)]

/-- A creation is replayed in the slot it is made for; the recorded slot only has to be in the tables. -/
theorem threadCreate_replays {child recordedChild : ThreadId} {recorded : KernelTid}
    (h : s.Faces (p.bytes ++ tail) filled)
    (hlogged : p.logged = (⟨s.running, .threadCreate recordedChild recorded⟩, []))
    (hrecorded : recordedChild.index < slotLimit) (hvalid : child.isValid)
    (hslot : child.index < slotLimit) (hfree : child ∉ filled) (kernel : KernelTid) :
    ∃ s', s.threadCreate s.running child kernel = (.ok recorded, s') ∧
      s.Reaches 1 tail (child :: filled) s' := by
  obtain ⟨s', hprocess, hreaches⟩ :=
    process_replays h hlogged rfl (.threadCreate child recordedChild kernel recorded hrecorded)
  have hunoccupied : s'.identities.occupies child = false := by
    cases hoccupies : s'.identities.occupies child with
    | false => rfl
    | true => exact (hfree (hreaches.faces.occupied child hoccupies)).elim
  obtain ⟨identities, hcreate, hoccupies⟩ :=
    IdentityTable.create_of_free hvalid hslot hunoccupied recorded kernel
  rw [threadCreate, h.replays.isActive, if_neg Bool.false_ne_true, checkRunning_self]
  dsimp only
  rw [hprocess]
  dsimp only
  rw [hreaches.faces.replays.mode_eq]
  dsimp only
  rw [identify, hcreate]
  refine ⟨_, rfl, ⟨hreaches.faces.channel, hreaches.faces.notClosed, ?_⟩, hreaches.entries,
    hreaches.running, hreaches.schedule, hreaches.layout⟩
  intro slot hslot
  have hslot := (hoccupies slot).symm.trans hslot
  rcases Bool.or_eq_true_iff.mp hslot with hchild | hbefore
  · exact List.mem_cons.mpr (.inl (of_decide_eq_true hchild).symm)
  · exact List.mem_cons_of_mem _ (hreaches.faces.occupied slot hbefore)

theorem snapshot_replays {recorded live : Bytes} (h : s.Faces (p.bytes ++ tail) filled)
    (henough : s.verifier.layout.minLength ≤ recorded.length)
    (hlength : live.length = recorded.length)
    (hlogged : p.logged = (.snapshot s.running recorded.length, recorded)) :
    ∃ s', s.snapshot live = (.ok (), s') ∧ s.Reaches 1 tail filled s' := by
  rw [← hlength] at henough hlogged
  have hscratch : (Verifier.scratch live.length).length = recorded.length := by
    rw [Verifier.scratch, Bytes.length_zeros, hlength]
  obtain ⟨s', hprocess, hreaches⟩ :=
    processData_replays h hlogged (.inr rfl) (.snapshot _) hscratch
  have hprocess : s.processData (.snapshot s.running live.length)
      (Verifier.scratch live.length) = (.ok (.snapshot s.running live.length), recorded, s') :=
    hprocess
  have hlong : s.verifier.checkLength live = .ok () := by
    rw [Verifier.checkLength, if_neg (Nat.not_lt.mpr henough)]
  rw [snapshot, h.notClosed, if_neg Bool.false_ne_true, h.replays.isActive, if_neg Bool.false_ne_true, hlong,
    h.isReplay]
  simp only [↓reduceIte, hprocess, hreaches.faces.isReplay]
  exact ⟨_, rfl, hreaches.compare live recorded⟩

theorem syscallRet_replays {recorded : UInt64} (h : s.Faces (p.bytes ++ tail) filled)
    (hlogged : p.logged = (.syscallRet s.running recorded, [])) (live : UInt64) :
    ∃ s', s.syscallRet live = (.ok (), recorded, s') ∧ s.Reaches 1 tail filled s' := by
  obtain ⟨s', hprocess, hreaches⟩ := process_replays h hlogged rfl (.syscallRet live recorded)
  have hprocess : s.process (.syscallRet s.running live) =
      (.ok ⟨s.running, .syscallRet recorded⟩, s') := hprocess
  rw [syscallRet, h.replays.isActive, if_neg Bool.false_ne_true, hprocess]
  exact ⟨s', rfl, hreaches⟩

theorem dispatchCounter_replays {before : Bool} {recorded : UInt64}
    (h : s.Faces (p.bytes ++ tail) filled)
    (hlogged : p.logged = (⟨s.running, .dispatchCounter before recorded⟩, [])) (live : UInt64) :
    ∃ s', s.dispatchCounter live before = (.ok (), s') ∧ s.Reaches 1 tail filled s' := by
  obtain ⟨s', hprocess, hreaches⟩ :=
    process_replays h hlogged rfl (.dispatchCounter before live recorded)
  rw [dispatchCounter, h.replays.isActive, if_neg Bool.false_ne_true, hprocess]
  refine ⟨_, rfl, ?_⟩
  rw [checkCounter]
  split
  · exact hreaches
  · exact ⟨⟨hreaches.faces.channel, hreaches.faces.notClosed, hreaches.faces.occupied⟩,
      hreaches.entries, hreaches.running, hreaches.schedule, hreaches.layout⟩

theorem initMemLayout_replays {vstart stackTop : UInt64} (h : s.Faces (p.bytes ++ tail) filled)
    (haligned : checkLayout vstart stackTop = .ok ())
    (hlogged : p.logged = (⟨s.running, .initMemLayout vstart stackTop⟩, []))
    (liveStart liveTop : UInt64) :
    ∃ s', s.initMemLayout liveStart liveTop = (.ok (), vstart, stackTop, s') ∧
      s.Reaches 1 tail filled s' := by
  obtain ⟨s', hprocess, hreaches⟩ :=
    process_replays h hlogged rfl (.initMemLayout liveStart liveTop vstart stackTop)
  rw [initMemLayout, h.replays.isActive, if_neg Bool.false_ne_true, hprocess]
  dsimp only
  rw [haligned]
  exact ⟨s', rfl, hreaches⟩

theorem timestamp_replays {recorded : UInt64} (h : s.Faces (p.bytes ++ tail) filled)
    (hlogged : p.logged =
      (⟨s.running, .timestamp recorded.toUInt32 (recorded >>> 32).toUInt32⟩, []))
    (live : UInt64) :
    ∃ s', s.timestamp live = (.ok recorded, s') ∧ s.Reaches 1 tail filled s' := by
  have hreads : s.readsCounter = false := by
    rw [readsCounter, h.isReplay]
    rfl
  obtain ⟨s', hprocess, hreaches⟩ := process_replays h hlogged rfl
    (.timestamp (0 : UInt64).toUInt32 ((0 : UInt64) >>> 32).toUInt32 _ _)
  rw [timestamp, h.replays.isActive, if_neg Bool.false_ne_true, hreads]
  simp only [Bool.false_eq_true, ↓reduceIte, hprocess, counter_of_halves]
  exact ⟨s', rfl, hreaches⟩

theorem registerProbe_replays {slot : ThreadId} (h : s.Faces tail filled) (hvalid : slot.isValid)
    (hslot : slot.index < slotLimit) (probe : ExitProbe) :
    ∃ s', s.registerProbe slot probe = (.ok (), s') ∧ s.Reaches 0 tail filled s' := by
  obtain ⟨identities, hregister, hoccupies⟩ :=
    IdentityTable.registerProbe_of_lt hvalid hslot s.identities probe
  rw [registerProbe, hregister]
  refine ⟨_, rfl, ⟨h.channel, h.notClosed, ?_⟩, rfl, rfl, rfl, rfl⟩
  intro slot' hslot'
  exact h.occupied slot' ((hoccupies slot').symm.trans hslot')

theorem processRegion_replays {region live : Guest.Memory} (h : s.Faces (p.bytes ++ tail) filled)
    (hlength : live.bytes.length = region.bytes.length)
    (hlogged : p.logged = (.data s.running region.bytes.length region.base, region.bytes)) :
    ∃ s', s.processData (.data s.running live.bytes.length live.base) live.bytes =
        (.ok (.data s.running live.bytes.length live.base), region.bytes, s') ∧
      s.Reaches 1 tail filled s' := by
  rw [← hlength] at hlogged
  exact processData_replays h hlogged (.inl rfl) (.data _ live.base region.base) hlength

theorem processRegions_replays {regions lives : List Guest.Memory} {passages : List Passage}
    (h : s.Faces (Passage.join passages ++ tail) filled) (hrunning : s.running = thread)
    (hlogged : List.Forall₂ (fun region p =>
      p.logged = (.data thread region.bytes.length region.base, region.bytes)) regions passages)
    (hlengths : List.Forall₂ (fun region live =>
      live.bytes.length = region.bytes.length) regions lives) :
    ∃ s', s.processRegions lives =
        (.ok (), lives.zipWith (fun live region => { live with bytes := region.bytes }) regions, s') ∧
      s.Reaches passages.length tail filled s' := by
  induction hlogged generalizing s lives with
  | nil =>
    cases hlengths
    exact ⟨s, rfl, h.reaches_refl⟩
  | @cons _ _ _ passages hp _ ih =>
    cases hlengths with
    | cons hlength hrest =>
      rw [Passage.join_cons, List.append_assoc] at h
      rw [← hrunning] at hp
      obtain ⟨s', hprocess, hreaches⟩ := processRegion_replays h hlength hp
      obtain ⟨s'', hregions, hreaches'⟩ :=
        ih hreaches.faces (hreaches.running.trans hrunning) hrest
      rw [processRegions, hprocess]
      dsimp only
      rw [hregions]
      refine ⟨s'', rfl, ?_⟩
      rw [List.length_cons, Nat.add_comm]
      exact hreaches.trans hreaches'

theorem syscallArgs_replays {sysno : UInt32} {recorded live : Bytes} {q : Passage}
    (h : s.Faces (p.bytes ++ (q.bytes ++ tail)) filled)
    (henough : s.verifier.layout.minLength ≤ recorded.length)
    (hlength : live.length = recorded.length)
    (hlogged : p.logged = (.syscallArgs s.running sysno, []))
    (himage : q.logged = (.snapshot s.running recorded.length, recorded)) :
    ∃ s', s.syscallArgs s.running sysno live = (.ok (), s') ∧ s.Reaches 2 tail filled s' := by
  obtain ⟨s', hprocess, hreaches⟩ := process_replays h hlogged rfl (.syscallArgs s.running sysno)
  have hprocess : s.process (.syscallArgs s.running sysno) =
      (.ok (.syscallArgs s.running sysno), s') := hprocess
  rw [← hreaches.layout] at henough
  rw [← hreaches.running] at himage
  obtain ⟨s'', hsnapshot, hreaches'⟩ := snapshot_replays hreaches.faces henough hlength himage
  rw [syscallArgs, h.replays.isActive, if_neg Bool.false_ne_true, checkRunning_self]
  dsimp only
  rw [hprocess]
  exact ⟨s'', hsnapshot, hreaches.trans hreaches'⟩

theorem processStack_replays {addr : UInt64} {size : UInt32} {recorded : Bytes}
    {memory : Guest.Memory} (h : s.Faces (p.bytes ++ tail) filled)
    (hlogged : p.logged = (.data s.running size.toNat addr, recorded))
    (hroom : (memory.read? addr size.toNat).isSome) (hlength : recorded.length = size.toNat) :
    ∃ s', s.processStack addr size memory = (.ok (), memory.write addr recorded, s') ∧
      s.Reaches 1 tail filled s' := by
  obtain ⟨live, hread⟩ := Option.isSome_iff_exists.mp hroom
  have hbuffer : live.length = recorded.length := by
    rw [Guest.Memory.length_of_read? hread, hlength]
  obtain ⟨s', hprocess, hreaches⟩ :=
    processData_replays h hlogged (.inl rfl) (.data _ addr addr) hbuffer
  have hprocess : s.processData (.data s.running size.toNat addr) live =
      (.ok (.data s.running size.toNat addr), recorded, s') := hprocess
  rw [processStack, hread]
  dsimp only
  rw [hprocess]
  exact ⟨s', rfl, hreaches⟩

theorem initClientStack_replays {stackTop : UInt64} {image : Guest.StackImage} {size : UInt32}
    {recorded : Bytes} {memory : Guest.Memory} {q : Passage}
    (h : s.Faces (p.bytes ++ (q.bytes ++ tail)) filled) (htop : stackTop ≠ 0)
    (hsize : stackSize? stackTop image.initialSp = some size)
    (hlength : recorded.length = size.toNat)
    (hlogged : p.logged = (⟨s.running, .initClientStack size image.auxv⟩, []))
    (hstack : q.logged = (.data s.running size.toNat image.initialSp, recorded))
    (hroom : (memory.read? image.initialSp size.toNat).isSome) (live : Guest.StackImage) :
    ∃ s', s.initClientStack stackTop live memory =
        (.ok (), { image with
          stackEnd := stackTop, stackBase := Guest.pageDown image.initialSp },
          memory.write image.initialSp recorded, s') ∧
      s.Reaches 2 tail filled s' := by
  obtain ⟨s', hprocess, hreaches⟩ :=
    process_replays h hlogged rfl (.initClientStack 0 size live.auxv image.auxv)
  have himage := recordedImage?_of_stackSize? hsize image.auxv
  rw [← hreaches.running] at hstack
  obtain ⟨s'', hprocess', hreaches'⟩ := processStack_replays hreaches.faces hstack hroom hlength
  rw [initClientStack, h.replays.isActive, if_neg Bool.false_ne_true, h.isRecord]
  simp only [Bool.false_eq_true, ↓reduceIte, htop, hprocess, hreaches.faces.isReplay, himage,
    hprocess']
  exact ⟨s'', rfl, hreaches.trans hreaches'⟩

end passage

/-- In front of the passages that a call logged, a call that is made alike gives back the recorded
values, and reads these passages. -/
theorem perform_replays {s : Session} {recorded live : Call} {passages : List Passage}
    {tail : Bytes} {filled : List ThreadId}
    (hlogs : recorded.Logs s.running s.verifier.layout passages) (halike : recorded.Alike live)
    (h : s.Faces (Passage.join passages ++ tail) filled)
    (hcmdline : ∀ text, recorded = .clientCmdline text → text.joined ≠ "")
    (hfree : ∀ slot ∈ live.fills, slot.isValid ∧ slot.index < slotLimit ∧ slot ∉ filled) :
    ∃ s', s.perform live = (recorded.replayed live, s') ∧
      s.Reaches passages.length tail (live.fills ++ filled) s' := by
  have hone (p : Passage) (h : s.Faces (Passage.join [p] ++ tail) filled) :
      s.Faces (p.bytes ++ tail) filled := by
    rwa [Passage.join_singleton] at h
  have htwo (p q : Passage) (h : s.Faces (Passage.join [p, q] ++ tail) filled) :
      s.Faces (p.bytes ++ (q.bytes ++ tail)) filled := by
    rwa [Passage.join_cons, Passage.join_singleton, List.append_assoc] at h
  cases hlogs with
  | clientCmdline hlimit hlogged =>
    cases halike with
    | clientCmdline _ live =>
      obtain ⟨s', hcall, hreaches⟩ :=
        clientCmdline_replays (hone _ h) (hcmdline _ rfl) hlimit hlogged live
      rw [perform, hcall]
      exact ⟨s', rfl, hreaches⟩
  | threadCreate hlogged =>
    cases halike with
    | threadCreate _ _ _ kernel =>
      obtain ⟨hvalid, hslot, hunfilled⟩ := hfree _ (List.mem_singleton.mpr rfl)
      obtain ⟨s', hcall, hreaches⟩ :=
        threadCreate_replays (hone _ h) hlogged hslot hvalid hslot hunfilled kernel
      rw [perform, hcall]
      exact ⟨s', rfl, hreaches⟩
  | syscallArgs henough hlogged himage =>
    cases halike with
    | syscallArgs _ _ hlength =>
      obtain ⟨s', hcall, hreaches⟩ :=
        syscallArgs_replays (htwo _ _ h) henough hlength hlogged himage
      rw [perform, hcall]
      exact ⟨s', rfl, hreaches⟩
  | syscallRet hlogged =>
    cases halike with
    | syscallRet _ live =>
      obtain ⟨s', hcall, hreaches⟩ := syscallRet_replays (hone _ h) hlogged live
      rw [perform, hcall]
      exact ⟨s', rfl, hreaches⟩
  | syscallMem hlogged =>
    cases halike with
    | syscallMem hlengths =>
      obtain ⟨s', hcall, hreaches⟩ := processRegions_replays h rfl hlogged hlengths
      rw [perform, syscallMem_of_active h.replays.isActive, hcall]
      exact ⟨s', rfl, hreaches⟩
  | dispatchCounter hlogged =>
    cases halike with
    | dispatchCounter _ _ live =>
      obtain ⟨s', hcall, hreaches⟩ := dispatchCounter_replays (hone _ h) hlogged live
      rw [perform, hcall]
      exact ⟨s', rfl, hreaches⟩
  | initMemLayout haligned hlogged =>
    cases halike with
    | initMemLayout _ _ liveStart liveTop =>
      obtain ⟨s', hcall, hreaches⟩ :=
        initMemLayout_replays (hone _ h) haligned hlogged liveStart liveTop
      rw [perform, hcall]
      exact ⟨s', rfl, hreaches⟩
  | initClientStack htop hsize hread hlogged hstack =>
    cases halike with
    | initClientStack _ hroom =>
      have hnat := (toNat_of_stackSize? hsize).2
      rw [← hnat] at hroom
      obtain ⟨s', hcall, hreaches⟩ := initClientStack_replays (htwo _ _ h) htop hsize
        (Guest.Memory.length_of_read? hread) hlogged hstack hroom _
      rw [perform, hcall, Call.replayed, ← hnat, hread]
      exact ⟨s', rfl, hreaches⟩
  | initGuestState henough himage =>
    cases halike with
    | initGuestState hlength =>
      obtain ⟨s', hcall, hreaches⟩ := snapshot_replays (hone _ h) henough hlength himage
      rw [perform, initGuestState_of_active h.replays.isActive, hcall]
      exact ⟨s', rfl, hreaches⟩
  | snapshot henough himage =>
    cases halike with
    | snapshot hlength =>
      obtain ⟨s', hcall, hreaches⟩ := snapshot_replays (hone _ h) henough hlength himage
      rw [perform, hcall]
      exact ⟨s', rfl, hreaches⟩
  | timestamp hlogged =>
    cases halike with
    | timestamp _ live =>
      have hreads : s.readsCounter = false := by
        rw [readsCounter, h.isReplay]
        rfl
      obtain ⟨s', hcall, hreaches⟩ := timestamp_replays (hone _ h) hlogged live
      rw [perform, hcall, hreads]
      exact ⟨s', rfl, hreaches⟩
  | registerProbe hvalid hslot =>
    cases halike with
    | registerProbe _ _ probe =>
      obtain ⟨s', hcall, hreaches⟩ := registerProbe_replays h hvalid hslot probe
      rw [perform, hcall]
      exact ⟨s', rfl, hreaches⟩

end Session

end Retrace
