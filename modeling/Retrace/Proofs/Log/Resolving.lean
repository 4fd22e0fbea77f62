import Retrace.Log.Reader
import Retrace.Proofs.Log.Passage

namespace Retrace

theorem Bytes.overwrite_of_length_le {front buffer : Bytes} (h : buffer.length ≤ front.length) :
    overwrite front buffer = front := by
  rw [overwrite, List.drop_eq_nil_of_le h, List.append_nil]

theorem Bytes.overwrite_of_length_eq {front buffer : Bytes} (h : front.length = buffer.length) :
    overwrite front buffer = front :=
  overwrite_of_length_le (Nat.le_of_eq h.symm)

theorem Bytes.length_overwrite {front buffer : Bytes} (h : front.length ≤ buffer.length) :
    (overwrite front buffer).length = buffer.length := by
  rw [overwrite, List.length_append, List.length_drop]
  omega

namespace Log

/-- A template body, a recorded body that it agrees with, and what the template becomes. -/
inductive Body.Settles : Body → Body → Body → Prop
  | syscallArgs (caller : ThreadId) (sysno : UInt32) :
    Settles (.syscallArgs caller sysno) (.syscallArgs caller sysno) (.syscallArgs caller sysno)
  | syscallRet (value value' : UInt64) :
    Settles (.syscallRet value) (.syscallRet value') (.syscallRet value')
  | dispatchCounter (before : Bool) (counter counter' : UInt64) :
    Settles (.dispatchCounter before counter) (.dispatchCounter before counter')
      (.dispatchCounter before counter')
  | threadCreate (child child' : ThreadId) (kernel kernel' : KernelTid)
      (h : child'.index < slotLimit) :
    Settles (.threadCreate child kernel) (.threadCreate child' kernel') (.threadCreate child' kernel')
  | acquire (holder holder' : ThreadId) (callerClass callerClass' : CallerClass)
      (h : holder'.index < slotLimit) :
    Settles (.acquire holder callerClass) (.acquire holder' callerClass')
      (.acquire holder' callerClass')
  | release (tag : ReleaseTag) : Settles (.release tag) (.release tag) (.release tag)
  | timestamp (low high low' high' : UInt32) :
    Settles (.timestamp low high) (.timestamp low' high') (.timestamp low' high')
  | clientCmdline (len len' : UInt32) :
    Settles (.clientCmdline len) (.clientCmdline len') (.clientCmdline len')
  | initClientStack (size size' : UInt32) (auxv auxv' : UInt64) :
    Settles (.initClientStack size auxv) (.initClientStack size' auxv')
      (.initClientStack size' auxv')
  | initMemLayout (vstart stackTop vstart' stackTop' : UInt64) :
    Settles (.initMemLayout vstart stackTop) (.initMemLayout vstart' stackTop')
      (.initMemLayout vstart' stackTop')
  | data (len addr addr' : UInt64) : Settles (.data len addr) (.data len addr') (.data len addr)
  | snapshot (len : UInt64) : Settles (.snapshot len) (.snapshot len) (.snapshot len)

theorem Body.Settles.settle {template recorded result : Body}
    (h : Settles template recorded result) : template.settle recorded = .ok result := by
  cases h <;> simp_all [Body.settle, checkSlot]

theorem Body.settles_of_settle {template recorded result : Body}
    (hkind : recorded.kind = template.kind) (h : template.settle recorded = .ok result) :
    Settles template recorded result := by
  cases template <;> cases recorded <;> cases hkind
  case syscallArgs.syscallArgs caller sysno caller' sysno' =>
    simp only [Body.settle] at h
    split at h
    · cases h
    · rename_i hsysno
      split at h
      · cases h
      · rename_i hcaller
        cases h
        cases Decidable.not_not.mp hsysno
        cases Decidable.not_not.mp hcaller
        exact .syscallArgs _ _
  case dispatchCounter.dispatchCounter before counter before' counter' =>
    simp only [Body.settle] at h
    split at h
    · cases h
    · rename_i hbefore
      cases h
      cases Decidable.not_not.mp hbefore
      exact .dispatchCounter _ _ _
  case threadCreate.threadCreate child kernel child' kernel' =>
    simp only [Body.settle, checkSlot] at h
    split at h
    · rename_i hslot
      cases h
      exact .threadCreate _ _ _ _ hslot
    · cases h
  case acquire.acquire holder callerClass holder' callerClass' =>
    simp only [Body.settle, checkSlot] at h
    split at h
    · rename_i hslot
      cases h
      exact .acquire _ _ _ _ hslot
    · cases h
  case release.release tag tag' =>
    simp only [Body.settle] at h
    split at h
    · cases h
    · rename_i htag
      cases h
      cases Decidable.not_not.mp htag
      exact .release _
  case data.data len addr len' addr' =>
    simp only [Body.settle] at h
    split at h
    · cases h
    · rename_i hlen
      cases h
      cases Decidable.not_not.mp hlen
      exact .data _ _ _
  case snapshot.snapshot len len' =>
    simp only [Body.settle] at h
    split at h
    · cases h
    · rename_i hlen
      cases h
      cases Decidable.not_not.mp hlen
      exact .snapshot _
  all_goals
    cases h
    constructor

theorem Body.Settles.kind_eq {template recorded result : Body}
    (h : Settles template recorded result) : recorded.kind = template.kind := by
  cases h <;> rfl

theorem Entry.settle_eq_ok_iff {template recorded result : Entry} :
    template.settle recorded = .ok result ↔
      recorded.thread = template.thread ∧ result.thread = template.thread ∧
        template.body.Settles recorded.body result.body := by
  obtain ⟨thread, body⟩ := template
  obtain ⟨thread', body'⟩ := recorded
  constructor
  · intro h
    rw [settle] at h
    split at h
    · cases h
    · rename_i hkind
      split at h
      · cases h
      · rename_i hthread
        cases hbody : body.settle body' with
        | error e => simp [hbody, Except.map] at h
        | ok settled =>
          simp only [hbody, Except.map] at h
          cases h
          exact ⟨Decidable.not_not.mp hthread, rfl,
            Body.settles_of_settle (Decidable.not_not.mp hkind) hbody⟩
  · rintro ⟨hthread, hthread', hbody⟩
    have hthread : thread' = thread := hthread
    have hkind : kind ⟨thread', body'⟩ = kind ⟨thread, body⟩ := hbody.kind_eq
    have hsettle : body.settle body' = .ok result.body := hbody.settle
    rw [settle, if_neg (fun h => h hkind), if_neg (fun h => h hthread)]
    obtain ⟨_, resultBody⟩ := result
    cases hthread'
    simp only [hsettle]
    rfl

theorem Entry.settle_ok_cases {thread : ThreadId} {body : Body} {recorded result : Entry}
    (h : settle ⟨thread, body⟩ recorded = .ok result) :
    ∃ body' body'', recorded = ⟨thread, body'⟩ ∧ result = ⟨thread, body''⟩ ∧
      body.Settles body' body'' := by
  obtain ⟨thread', body'⟩ := recorded
  obtain ⟨thread'', body''⟩ := result
  obtain ⟨rfl, rfl, hbody⟩ := settle_eq_ok_iff.mp h
  exact ⟨body', body'', rfl, rfl, hbody⟩

theorem Body.settle_ne_endOfLog (template recorded : Body) :
    template.settle recorded ≠ .error .endOfLog := by
  intro h
  simp only [settle, checkSlot] at h
  repeat' split at h
  all_goals cases h

theorem Entry.settle_ne_endOfLog (template recorded : Entry) :
    template.settle recorded ≠ .error .endOfLog := by
  intro h
  rw [settle] at h
  split at h
  · cases h
  · split at h
    · cases h
    · cases hbody : template.body.settle recorded.body with
      | ok body => simp [hbody, Except.map] at h
      | error e =>
        simp only [hbody, Except.map, Except.error.injEq] at h
        exact Body.settle_ne_endOfLog _ _ (h ▸ hbody)

theorem Body.Settles.payloadLength_result {template recorded result : Body}
    (h : Settles template recorded result) : result.payloadLength = recorded.payloadLength := by
  cases h <;> rfl

theorem Body.Settles.payloadLength_template {template recorded result : Body}
    (h : Settles template recorded result) (hkind : template.kind ≠ .clientCmdline) :
    recorded.payloadLength = template.payloadLength := by
  cases h with
  | clientCmdline => exact absurd rfl hkind
  | _ => rfl

theorem Source.plain_readPayload (rest : Bytes) (offset : Nat) (buffer : Bytes) :
    (plain rest offset).readPayload buffer =
      (if rest.length < buffer.length then .error (.truncated buffer.length rest.length) else .ok (),
        Bytes.overwrite (rest.take buffer.length) buffer,
        plain (rest.drop buffer.length) (offset + (rest.take buffer.length).length)) := by
  have hlen : (Bytes.overwrite (rest.take buffer.length) buffer).length = buffer.length :=
    Bytes.length_overwrite (List.length_take_le _ _)
  simp only [readPayload, plain_fill, hlen, List.length_take]
  by_cases h : rest.length < buffer.length
  · rw [Nat.min_eq_right (Nat.le_of_lt h), if_pos h, if_pos h]
  · rw [Nat.min_eq_left (Nat.le_of_not_lt h), if_neg h, if_neg (Nat.lt_irrefl _)]

namespace Reader

def plain (rest : Bytes) (offset resolved : Nat) : Reader :=
  { source := .plain rest offset, resolved }

/-- A reader has read on over some bytes, and so many entries in them. -/
def Reads (r : Reader) (read : Bytes) (count : Nat) (r' : Reader) : Prop :=
  ∃ rest offset resolved, r = plain (read ++ rest) offset resolved ∧
    r' = plain rest (offset + read.length) (resolved + count)

theorem Reads.refl (rest : Bytes) (offset resolved : Nat) :
    (plain rest offset resolved).Reads [] 0 (plain rest offset resolved) :=
  ⟨rest, offset, resolved, rfl, rfl⟩

theorem plain_injective {rest rest' : Bytes} {offset offset' resolved resolved' : Nat}
    (h : plain rest offset resolved = plain rest' offset' resolved') :
    rest = rest' ∧ offset = offset' ∧ resolved = resolved' := by
  simp only [plain, Source.plain, mk.injEq, Source.mk.injEq] at h
  exact ⟨h.1.1, h.1.2.1, h.2⟩

theorem Reads.trans {r r' r'' : Reader} {read read' : Bytes} {count count' : Nat}
    (h : r.Reads read count r') (h' : r'.Reads read' count' r'') :
    r.Reads (read ++ read') (count + count') r'' := by
  obtain ⟨rest, offset, resolved, rfl, rfl⟩ := h
  obtain ⟨rest', offset', resolved', hr, rfl⟩ := h'
  obtain ⟨rfl, hoffset, hresolved⟩ := plain_injective hr
  refine ⟨rest', offset, resolved, by rw [List.append_assoc], ?_⟩
  rw [← hoffset, ← hresolved, List.length_append, Nat.add_assoc, Nat.add_assoc]

theorem plain_nextEntry_nil (offset resolved : Nat) :
    (plain [] offset resolved).nextEntry = (.error .endOfLog, plain [] offset resolved) := by
  simp [nextEntry, plain, Source.plain_readRecord_nil]

theorem plain_nextEntry_short {rest : Bytes} (hpos : 0 < rest.length) (hlt : rest.length < recordSize)
    (offset resolved : Nat) :
    (plain rest offset resolved).nextEntry =
      (.error (.log (.truncated recordSize rest.length)),
        plain [] (offset + rest.length) resolved) := by
  simp [nextEntry, plain, Source.plain_readRecord_short hpos hlt]

theorem plain_nextEntry_ok {record : Bytes} {entry : Entry} (hlen : record.length = recordSize)
    (hdecode : Entry.decode record = .ok entry) (tail : Bytes) (offset resolved : Nat) :
    (plain (record ++ tail) offset resolved).nextEntry =
      (.ok entry, plain tail (offset + recordSize) (resolved + 1)) := by
  simp [nextEntry, plain, Source.plain_readRecord_append hlen, hdecode]

theorem plain_nextEntry_error {record : Bytes} {e : LogError} (hlen : record.length = recordSize)
    (hdecode : Entry.decode record = .error e) (tail : Bytes) (offset resolved : Nat) :
    (plain (record ++ tail) offset resolved).nextEntry =
      (.error (.log e), plain tail (offset + recordSize) resolved) := by
  simp [nextEntry, plain, Source.plain_readRecord_append hlen, hdecode]

/-- A reader is at the end of its log, or inside its last record, or in front of a whole record. -/
theorem front_cases (rest : Bytes) :
    rest = [] ∨ (0 < rest.length ∧ rest.length < recordSize) ∨
      ∃ record tail, rest = record ++ tail ∧ record.length = recordSize := by
  by_cases hle : recordSize ≤ rest.length
  · exact .inr (.inr ⟨rest.take recordSize, rest.drop recordSize,
      (List.take_append_drop _ _).symm, List.length_take_of_le hle⟩)
  · cases rest with
    | nil => exact .inl rfl
    | cons b rest => exact .inr (.inl ⟨Nat.zero_lt_succ _, Nat.lt_of_not_le hle⟩)

theorem nextEntry_reads (rest : Bytes) (offset resolved : Nat) :
    ∃ read count, (plain rest offset resolved).Reads read count
      (plain rest offset resolved).nextEntry.2 := by
  rcases front_cases rest with rfl | ⟨hpos, hlt⟩ | ⟨record, tail, rfl, hlen⟩
  · exact ⟨[], 0, by rw [plain_nextEntry_nil]; exact .refl _ _ _⟩
  · refine ⟨rest, 0, [], offset, resolved, by rw [List.append_nil], ?_⟩
    rw [plain_nextEntry_short hpos hlt]
    rfl
  · cases hdecode : Entry.decode record with
    | error e =>
      refine ⟨record, 0, tail, offset, resolved, rfl, ?_⟩
      rw [plain_nextEntry_error hlen hdecode, hlen]
      rfl
    | ok entry =>
      refine ⟨record, 1, tail, offset, resolved, rfl, ?_⟩
      rw [plain_nextEntry_ok hlen hdecode, hlen]

theorem nextEntry_ok {rest : Bytes} {offset resolved : Nat} {entry : Entry} {r : Reader}
    (h : (plain rest offset resolved).nextEntry = (.ok entry, r)) :
    ∃ record tail, rest = record ++ tail ∧ record.length = recordSize ∧
      Entry.decode record = .ok entry ∧ r = plain tail (offset + recordSize) (resolved + 1) := by
  rcases front_cases rest with rfl | ⟨hpos, hlt⟩ | ⟨record, tail, rfl, hlen⟩
  · rw [plain_nextEntry_nil] at h
    cases h
  · rw [plain_nextEntry_short hpos hlt] at h
    cases h
  · refine ⟨record, tail, rfl, hlen, ?_⟩
    cases hdecode : Entry.decode record with
    | error e =>
      rw [plain_nextEntry_error hlen hdecode] at h
      cases h
    | ok recorded =>
      rw [plain_nextEntry_ok hlen hdecode] at h
      cases h
      exact ⟨rfl, rfl⟩

theorem settleNext_ok {rest : Bytes} {offset resolved : Nat} {template entry : Entry} {r : Reader}
    (h : (plain rest offset resolved).settleNext template = (.ok entry, r)) :
    ∃ record recorded tail, rest = record ++ tail ∧ record.length = recordSize ∧
      Entry.decode record = .ok recorded ∧ template.settle recorded = .ok entry ∧
      r = plain tail (offset + recordSize) (resolved + 1) := by
  rw [settleNext] at h
  split at h
  · cases h
  · rename_i recorded next hnext
    obtain ⟨record, tail, hrest, hlen, hdecode, rfl⟩ := nextEntry_ok hnext
    obtain ⟨hsettle, rfl⟩ := Prod.mk.inj h
    exact ⟨record, recorded, tail, hrest, hlen, hdecode, hsettle, rfl⟩

theorem settleNext_passage (p : Passage) (template : Entry) (tail : Bytes) (offset resolved : Nat) :
    (plain (p.bytes ++ tail) offset resolved).settleNext template =
      (template.settle p.entry, plain (p.payload ++ tail) (offset + recordSize) (resolved + 1)) := by
  rw [p.bytes_append, settleNext, plain_nextEntry_ok p.length_record p.decode_record]

theorem settleNext_reads (rest : Bytes) (offset resolved : Nat) (template : Entry) :
    ∃ read count, (plain rest offset resolved).Reads read count
      ((plain rest offset resolved).settleNext template).2 := by
  have hreads := nextEntry_reads rest offset resolved
  rw [settleNext]
  split <;> rename_i hnext <;> rwa [hnext] at hreads

theorem resolve_reads (rest : Bytes) (offset resolved : Nat) (template : Entry) :
    ∃ read count, (plain rest offset resolved).Reads read count
      ((plain rest offset resolved).resolve template).2 := by
  rw [resolve]
  split
  · exact ⟨[], 0, .refl _ _ _⟩
  · exact settleNext_reads rest offset resolved template

theorem resolve_ok {rest : Bytes} {offset resolved : Nat} {template entry : Entry} {r : Reader}
    (h : (plain rest offset resolved).resolve template = (.ok entry, r)) :
    ∃ p : Passage, p.payload = [] ∧ (plain rest offset resolved).Reads p.bytes 1 r ∧
      template.settle p.entry = .ok entry := by
  rw [resolve] at h
  split at h
  · cases h
  · rename_i hkind
    obtain ⟨record, recorded, tail, rfl, hlen, hdecode, hsettle, rfl⟩ := settleNext_ok h
    have hsame : recorded.kind = template.kind := (Entry.settle_eq_ok_iff.mp hsettle).2.2.kind_eq
    have hpayload : recorded.payloadLength = 0 := by
      apply Body.payloadLength_of_not_hasPayload
      rw [Bool.not_eq_true, ← hsame] at hkind
      exact hkind
    let p : Passage := ⟨record, recorded, [], hlen, hdecode, hpayload.symm⟩
    have hbytes : p.bytes = record := List.append_nil record
    refine ⟨p, rfl, ⟨tail, offset, resolved, by rw [hbytes], ?_⟩, hsettle⟩
    rw [hbytes, hlen]

/-- Only the end of the log is reported as such. -/
theorem resolve_endOfLog {rest : Bytes} {offset resolved : Nat} {template : Entry} {r : Reader}
    (h : (plain rest offset resolved).resolve template = (.error .endOfLog, r)) :
    rest = [] ∧ r = plain [] offset resolved := by
  rw [resolve] at h
  split at h
  · cases h
  · rw [settleNext] at h
    rcases front_cases rest with rfl | ⟨hpos, hlt⟩ | ⟨record, tail, rfl, hlen⟩
    · rw [plain_nextEntry_nil] at h
      cases h
      exact ⟨rfl, rfl⟩
    · rw [plain_nextEntry_short hpos hlt] at h
      cases h
    · cases hdecode : Entry.decode record with
      | error e =>
        rw [plain_nextEntry_error hlen hdecode] at h
        cases h
      | ok recorded =>
        rw [plain_nextEntry_ok hlen hdecode] at h
        exact absurd (Prod.mk.inj h).1 (Entry.settle_ne_endOfLog _ _)

theorem resolve_passage {p : Passage} {template : Entry} (hpayload : p.payload = [])
    (hkind : template.kind.hasPayload = false) (tail : Bytes) (offset resolved : Nat) :
    (plain (p.bytes ++ tail) offset resolved).resolve template =
      (template.settle p.entry, plain tail (offset + p.bytes.length) (resolved + 1)) := by
  rw [resolve, hkind, if_neg Bool.false_ne_true, settleNext_passage, hpayload, p.length_bytes,
    Passage.size, hpayload]
  rfl

theorem readPayload_reads {rest buffer filled : Bytes} {offset : Nat}
    {result : Except LogError Unit} {source : Source}
    (h : (Source.plain rest offset).readPayload buffer = (result, filled, source))
    (resolved : Nat) :
    (plain rest offset resolved).Reads (rest.take buffer.length) 0 { source, resolved } := by
  rw [Source.plain_readPayload] at h
  cases h
  exact ⟨rest.drop buffer.length, offset, resolved, by rw [List.take_append_drop], rfl⟩

theorem readPayload_ok {rest : Bytes} {offset : Nat} {buffer filled : Bytes} {source : Source}
    (h : (Source.plain rest offset).readPayload buffer = (.ok (), filled, source)) :
    ∃ tail, rest = filled ++ tail ∧ filled.length = buffer.length ∧
      source = .plain tail (offset + filled.length) := by
  rw [Source.plain_readPayload] at h
  split at h
  · cases h
  · rename_i hlen
    cases h
    have htake : (rest.take buffer.length).length = buffer.length :=
      List.length_take_of_le (Nat.le_of_not_lt hlen)
    rw [Bytes.overwrite_of_length_eq htake]
    exact ⟨rest.drop buffer.length, (List.take_append_drop _ _).symm, htake, rfl⟩

theorem readPayload_append {payload buffer : Bytes} (h : buffer.length = payload.length)
    (tail : Bytes) (offset : Nat) :
    (Source.plain (payload ++ tail) offset).readPayload buffer =
      (.ok (), payload, .plain tail (offset + payload.length)) := by
  rw [Source.plain_readPayload, h, List.take_left' rfl, List.drop_left' rfl, if_neg (by simp),
    Bytes.overwrite_of_length_eq h.symm]

theorem resolveData_reads (rest : Bytes) (offset resolved : Nat) (template : Entry)
    (buffer : Bytes) :
    ∃ read count, (plain rest offset resolved).Reads read count
      ((plain rest offset resolved).resolveData template buffer).2.2 := by
  rw [resolveData]
  split
  · exact ⟨[], 0, .refl _ _ _⟩
  · split
    · exact ⟨[], 0, .refl _ _ _⟩
    · obtain ⟨read, count, hreads⟩ := settleNext_reads rest offset resolved template
      split
      · rename_i hnext
        rw [hnext] at hreads
        exact ⟨read, count, hreads⟩
      · rename_i entry r hnext
        rw [hnext] at hreads
        obtain ⟨rest', offset', resolved', hr, rfl⟩ := hreads
        have hfront : (plain rest offset resolved).Reads read count
            (plain rest' (offset' + read.length) (resolved' + count)) :=
          ⟨rest', offset', resolved', hr, rfl⟩
        split <;> rename_i hread <;> exact ⟨_, _, hfront.trans (readPayload_reads hread _)⟩

theorem resolveData_ok {rest : Bytes} {offset resolved : Nat} {template entry : Entry}
    {buffer filled : Bytes} {r : Reader}
    (h : (plain rest offset resolved).resolveData template buffer = (.ok entry, filled, r)) :
    ∃ p : Passage, p.payload = filled ∧ filled.length = buffer.length ∧
      buffer.length = template.payloadLength ∧ (plain rest offset resolved).Reads p.bytes 1 r ∧
      template.settle p.entry = .ok entry := by
  rw [resolveData] at h
  split at h
  · cases h
  · rename_i hkind
    split at h
    · cases h
    · rename_i hbuffer
      have hbuffer := Decidable.not_not.mp hbuffer
      split at h
      · cases h
      · rename_i settled next hnext
        obtain ⟨record, recorded, tail, rfl, hlen, hdecode, hsettle, rfl⟩ := settleNext_ok hnext
        split at h
        · cases h
        · rename_i filled' source hread
          cases h
          obtain ⟨tail', rfl, hfilled, rfl⟩ := readPayload_ok hread
          have hbody := (Entry.settle_eq_ok_iff.mp hsettle).2.2
          have hdata : template.body.kind ≠ .clientCmdline := by
            intro hcmdline
            rw [Entry.kind, hcmdline] at hkind
            exact hkind ⟨by decide, by decide⟩
          have hpayload : filled.length = recorded.payloadLength := by
            rw [hfilled, hbuffer]
            exact (hbody.payloadLength_template hdata).symm
          let p : Passage := ⟨record, recorded, filled, hlen, hdecode, hpayload⟩
          refine ⟨p, rfl, hfilled, hbuffer, ⟨tail', offset, resolved, ?_, ?_⟩, hsettle⟩
          · rw [p.bytes_append]
          · rw [p.length_bytes, Passage.size, ← Nat.add_assoc]
            rfl

theorem resolveData_passage {p : Passage} {template entry : Entry} {buffer : Bytes}
    (hkind : template.kind = .data ∨ template.kind = .snapshot)
    (hsettle : template.settle p.entry = .ok entry) (hbuffer : buffer.length = p.payload.length)
    (tail : Bytes) (offset resolved : Nat) :
    (plain (p.bytes ++ tail) offset resolved).resolveData template buffer =
      (.ok entry, p.payload, plain tail (offset + p.bytes.length) (resolved + 1)) := by
  have hbody := (Entry.settle_eq_ok_iff.mp hsettle).2.2
  have hdata : template.body.kind ≠ .clientCmdline := by
    intro hcmdline
    rcases hkind with h | h <;> cases hcmdline.symm.trans h
  have hdeclared : buffer.length = template.payloadLength := by
    rw [hbuffer, p.length_payload]
    exact hbody.payloadLength_template hdata
  have hkinds : ¬(template.kind ≠ .data ∧ template.kind ≠ .snapshot) := by
    rcases hkind with h | h <;> simp [h]
  rw [resolveData, if_neg hkinds, if_neg (fun h => h hdeclared), settleNext_passage, hsettle]
  simp only [plain, readPayload_append hbuffer, p.length_bytes, Passage.size, Nat.add_assoc]

theorem resolveCmdline_reads (rest : Bytes) (offset resolved : Nat) (template : Entry) :
    ∃ read count, (plain rest offset resolved).Reads read count
      ((plain rest offset resolved).resolveCmdline template).2 := by
  rw [resolveCmdline]
  split
  · exact ⟨[], 0, .refl _ _ _⟩
  · obtain ⟨read, count, hreads⟩ := settleNext_reads rest offset resolved template
    split
    · rename_i hnext
      rw [hnext] at hreads
      exact ⟨read, count, hreads⟩
    · rename_i entry r hnext
      rw [hnext] at hreads
      obtain ⟨rest', offset', resolved', hr, rfl⟩ := hreads
      dsimp only
      split
      · exact ⟨read, count, rest', offset', resolved', hr, rfl⟩
      · have hfront : (plain rest offset resolved).Reads read count
            (plain rest' (offset' + read.length) (resolved' + count)) :=
          ⟨rest', offset', resolved', hr, rfl⟩
        split <;> rename_i hread <;> exact ⟨_, _, hfront.trans (readPayload_reads hread _)⟩

theorem resolveCmdline_ok {rest : Bytes} {offset resolved : Nat} {template entry : Entry}
    {text : Bytes} {r : Reader}
    (h : (plain rest offset resolved).resolveCmdline template = (.ok (entry, text), r)) :
    ∃ p : Passage, p.payload = text ∧ 0 < text.length ∧ text.length < cmdlineLimit ∧
      (plain rest offset resolved).Reads p.bytes 1 r ∧ template.settle p.entry = .ok entry := by
  rw [resolveCmdline] at h
  split at h
  · cases h
  · split at h
    · cases h
    · rename_i settled next hnext
      obtain ⟨record, recorded, tail, rfl, hlen, hdecode, hsettle, rfl⟩ := settleNext_ok hnext
      dsimp only at h
      split at h
      · cases h
      · rename_i hlimit
        split at h
        · cases h
        · rename_i filled source hread
          cases h
          obtain ⟨tail', rfl, hfilled, rfl⟩ := readPayload_ok hread
          rw [Bytes.length_zeros] at hfilled
          have hpayload : text.length = recorded.payloadLength := by
            rw [hfilled]
            exact (Entry.settle_eq_ok_iff.mp hsettle).2.2.payloadLength_result
          let p : Passage := ⟨record, recorded, text, hlen, hdecode, hpayload⟩
          refine ⟨p, rfl, by omega, by omega, ⟨tail', offset, resolved, ?_, ?_⟩, hsettle⟩
          · rw [p.bytes_append]
          · rw [p.length_bytes, Passage.size, ← Nat.add_assoc]
            rfl

theorem resolveCmdline_passage {p : Passage} {template entry : Entry}
    (hkind : template.kind = .clientCmdline) (hsettle : template.settle p.entry = .ok entry)
    (hpos : 0 < p.payload.length) (hlimit : p.payload.length < cmdlineLimit)
    (tail : Bytes) (offset resolved : Nat) :
    (plain (p.bytes ++ tail) offset resolved).resolveCmdline template =
      (.ok (entry, p.payload), plain tail (offset + p.bytes.length) (resolved + 1)) := by
  have hlength : entry.payloadLength = p.payload.length := by
    rw [p.length_payload]
    exact (Entry.settle_eq_ok_iff.mp hsettle).2.2.payloadLength_result
  have hfits : ¬(entry.payloadLength = 0 ∨ cmdlineLimit ≤ entry.payloadLength) := by omega
  rw [resolveCmdline, if_neg (fun h => h hkind), settleNext_passage, hsettle]
  have hbuffer : (Bytes.zeros entry.payloadLength).length = p.payload.length := by
    rw [Bytes.length_zeros, hlength]
  simp only [if_neg hfits, plain, readPayload_append hbuffer, p.length_bytes, Passage.size,
    Nat.add_assoc]

end Reader

end Log

end Retrace
