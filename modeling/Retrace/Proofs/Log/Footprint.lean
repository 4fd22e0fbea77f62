import Retrace.Proofs.Log.Chopping
import Retrace.Proofs.Log.Cutting

namespace Retrace.Log

namespace Source

/-- The bytes that can still be read: all that are left, or those in front of the failure. -/
def present (s : Source) : Bytes :=
  match s.policy.failure with
  | some (limit, _) => s.rest.take (limit - s.offset)
  | none => s.rest

/-- The error of a read that wants more bytes than it finds. -/
def shortfall (s : Source) (expected found : Nat) : LogError :=
  match (s.past found).failure? with
  | some reason => .io reason
  | none => .truncated expected found

theorem shortfall_of_steady {s : Source} (h : s.policy.failure = none) (expected found : Nat) :
    s.shortfall expected found = .truncated expected found := by
  have hfailure : (s.past found).failure? = none := by
    rw [failure?, past, h]
  rw [shortfall, hfailure]

theorem present_of_steady {s : Source} (h : s.policy.failure = none) : s.present = s.rest := by
  rw [present, h]

theorem present_inFull (s : Source) : s.inFull.present = s.present := rfl

theorem shortfall_inFull (s : Source) (expected found : Nat) :
    s.inFull.shortfall expected found = s.shortfall expected found := rfl

theorem length_present_le (s : Source) : s.present.length ≤ s.rest.length := by
  rw [present]
  split
  · exact List.length_take_le' _ _
  · exact Nat.le_refl _

theorem take_present {s : Source} {count : Nat} (h : count ≤ s.present.length) :
    s.present.take count = s.rest.take count := by
  rw [present] at h ⊢
  split at h
  · rw [List.length_take] at h
    rw [List.take_take, Nat.min_eq_left (by omega)]
  · rfl

theorem present_past (s : Source) (count : Nat) :
    (s.past count).present = s.present.drop count := by
  rcases hfailure : s.policy.failure with _ | ⟨limit, reason⟩
  · simp only [present, past, hfailure]
  · simp only [present, past, hfailure, List.drop_take, Nat.sub_sub]

theorem gather_eq (s : Source) (want : Nat) :
    s.gather want =
      { bytes := s.present.take want
        failure := if s.present.length < want then (s.past s.present.length).failure? else none } := by
  have hbytes : s.rest.take (s.inFull.share want) = s.present.take want := by
    rcases hfailure : s.policy.failure with _ | ⟨limit, reason⟩
    · simp only [share, inFull, present, hfailure]
    · simp only [share, inFull, present, hfailure, List.take_take]
  rw [gather, hbytes]
  by_cases hshort : s.present.length < want
  · have hall : s.present.take want = s.present := List.take_of_length_le (Nat.le_of_lt hshort)
    rw [hall]
  · have hlength : (s.present.take want).length = want :=
      List.length_take_of_le (Nat.le_of_not_lt hshort)
    rw [hlength, if_neg (Nat.lt_irrefl want), if_neg hshort]

theorem fill_present (s : Source) (want : Nat) :
    (s.fill want).1.bytes = s.present.take want ∧
      (s.fill want).1.failure =
        (if s.present.length < want then (s.past s.present.length).failure? else none) ∧
      (s.fill want).2.inFull = s.inFull.past (min want s.present.length) := by
  have hfilled := s.fill_eq_gather want
  rw [gather_eq] at hfilled
  refine ⟨congrArg Filled.bytes hfilled, congrArg Filled.failure hfilled, ?_⟩
  rw [inFull_fill, hfilled, List.length_take]

theorem readPayload_present (s : Source) (buffer : Bytes) :
    (s.readPayload buffer).1 =
        (if s.present.length < buffer.length then
          .error (s.shortfall buffer.length s.present.length) else .ok ()) ∧
      (s.readPayload buffer).2.1 = Bytes.overwrite (s.present.take buffer.length) buffer ∧
      (s.readPayload buffer).2.2.inFull = s.inFull.past (min buffer.length s.present.length) := by
  obtain ⟨hbytes, hfailure, hnext⟩ := s.fill_present buffer.length
  have hroom : (Bytes.overwrite (s.present.take buffer.length) buffer).length = buffer.length :=
    Bytes.length_overwrite (List.length_take_le _ _)
  rw [readPayload]
  generalize s.fill buffer.length = filled at hbytes hfailure hnext
  obtain ⟨⟨bytes, failure⟩, next⟩ := filled
  dsimp only at hbytes hfailure hnext
  subst hbytes hfailure
  dsimp only
  rw [hroom]
  by_cases hshort : s.present.length < buffer.length
  · have hall : s.present.take buffer.length = s.present :=
      List.take_of_length_le (Nat.le_of_lt hshort)
    rw [if_pos hshort, if_pos hshort, hall, shortfall]
    cases (s.past s.present.length).failure? with
    | some reason => exact ⟨rfl, rfl, hnext⟩
    | none =>
      dsimp only
      rw [if_pos hshort]
      exact ⟨rfl, rfl, hnext⟩
  · have hlength : (s.present.take buffer.length).length = buffer.length :=
      List.length_take_of_le (Nat.le_of_not_lt hshort)
    rw [if_neg hshort, if_neg hshort]
    dsimp only
    rw [hlength, if_neg (Nat.lt_irrefl _)]
    exact ⟨rfl, rfl, hnext⟩

end Source

theorem Entry.payloadLength_of_settle {template recorded entry : Entry}
    (h : template.settle recorded = .ok entry) (hkind : template.kind ≠ .clientCmdline) :
    entry.payloadLength = template.payloadLength := by
  obtain ⟨_, _, hsettles⟩ := settle_eq_ok_iff.mp h
  exact hsettles.payloadLength_result.trans (hsettles.payloadLength_template hkind)

namespace Reader

/-- The entry in the record that a reader stands in front of, or why there is none. -/
def ahead (r : Reader) : Except Desync Entry :=
  let found := r.source.present.take recordSize
  if found.length = recordSize then (Entry.decode found).mapError .log
  else
    match (r.source.past found.length).failure? with
    | some reason => .error (.log (.io reason))
    | none =>
      if found.isEmpty then .error .endOfLog
      else .error (.log (.truncated recordSize found.length))

/-- The next entry is the one ahead. Its record is taken as far as it is present, and it is counted if
it can be decoded. -/
theorem nextEntry_ahead (r : Reader) :
    r.nextEntry.1 = r.ahead ∧
      r.nextEntry.2.source.inFull =
        r.source.inFull.past (min recordSize r.source.present.length) ∧
      r.nextEntry.2.resolved = r.resolved + if r.ahead.isOk then 1 else 0 := by
  obtain ⟨hbytes, hfailure, hnext⟩ := r.source.fill_present recordSize
  rw [nextEntry, Source.readRecord, ahead]
  generalize r.source.fill recordSize = filled at hbytes hfailure hnext
  obtain ⟨⟨bytes, failure⟩, next⟩ := filled
  dsimp only at hbytes hfailure hnext
  subst hbytes hfailure
  by_cases hshort : r.source.present.length < recordSize
  · have hall : r.source.present.take recordSize = r.source.present :=
      List.take_of_length_le (Nat.le_of_lt hshort)
    rw [hall, if_pos hshort, if_neg (Nat.ne_of_lt hshort)]
    cases (r.source.past r.source.present.length).failure? with
    | some reason => exact ⟨rfl, hnext, rfl⟩
    | none =>
      dsimp only
      rw [if_neg (Nat.ne_of_lt hshort)]
      by_cases hempty : r.source.present.isEmpty
      · rw [if_pos hempty, if_pos hempty]
        exact ⟨rfl, hnext, rfl⟩
      · rw [if_neg hempty, if_neg hempty]
        exact ⟨rfl, hnext, rfl⟩
  · have hlength : (r.source.present.take recordSize).length = recordSize :=
      List.length_take_of_le (Nat.le_of_not_lt hshort)
    rw [if_neg hshort, if_pos hlength]
    dsimp only
    rw [if_pos hlength]
    dsimp only
    cases Entry.decode (r.source.present.take recordSize) with
    | error e => exact ⟨rfl, hnext, rfl⟩
    | ok entry => exact ⟨rfl, hnext, rfl⟩

def Call.buffer? : Call → Option Bytes
  | .resolveData _ buffer => some buffer
  | _ => none

/-- Why a call reads nothing at all: its template has another kind than it is for, or the buffer another
length than the template declares. -/
def Call.misuse? : Call → Option Desync
  | .resolve template =>
    if template.kind.hasPayload then some (.wrongResolver template.kind .plain) else none
  | .resolveData template buffer =>
    if template.kind ≠ .data ∧ template.kind ≠ .snapshot then
      some (.wrongResolver template.kind .data)
    else if buffer.length ≠ template.payloadLength then
      some (.bufferLength template.kind template.payloadLength buffer.length)
    else none
  | .resolveCmdline template =>
    if template.kind ≠ .clientCmdline then some (.wrongResolver template.kind .cmdline) else none

/-- What a call makes of the entry in a record, before it reads a payload. -/
def Call.accept (recorded : Entry) : Call → Except Desync Entry
  | .resolve template => template.settle recorded
  | .resolveData template _ => template.settle recorded
  | .resolveCmdline template =>
    match template.settle recorded with
    | .error e => .error e
    | .ok entry =>
      if entry.payloadLength = 0 ∨ cmdlineLimit ≤ entry.payloadLength then
        .error (.cmdlineLength entry.payloadLength)
      else .ok entry

def Answer.result : Answer → Except Desync (Entry × Bytes)
  | .resolve result => result.map (·, [])
  | .resolveData result buffer => result.map (·, buffer)
  | .resolveCmdline result => result

def Answer.buffer? : Answer → Option Bytes
  | .resolveData _ buffer => some buffer
  | _ => none

/-- A call fails and leaves the buffer so. -/
def Answer.Fails (answer : Answer) (e : Desync) (buffer? : Option Bytes) : Prop :=
  answer.result = .error e ∧ answer.buffer? = buffer?

/-- A reader is so many bytes further on in its log, and no more. -/
structure Took (r : Reader) (count : Nat) (r' : Reader) : Prop where
  rest : r'.source.rest = r.source.rest.drop count
  offset : r'.source.offset = r.source.offset + count
  present : count ≤ r.source.rest.length

def behind (r : Reader) : Bytes := r.source.present.drop recordSize

/-- What a call leaves behind, by the place where it ends. -/
inductive Footprint (r : Reader) (call : Call) (answer : Answer) (r' : Reader) : Prop
  | misused {e : Desync} (misuse : call.misuse? = some e) (fails : answer.Fails e call.buffer?)
    (still : r' = r)
  /-- There is no entry ahead. -/
  | unread {e : Desync} (used : call.misuse? = none) (ahead : r.ahead = .error e)
    (fails : answer.Fails e call.buffer?)
    (took : r.Took (min recordSize r.source.present.length) r')
    (resolved : r'.resolved = r.resolved)
  /-- The entry ahead is not taken. -/
  | refused {recorded : Entry} {e : Desync} (used : call.misuse? = none)
    (ahead : r.ahead = .ok recorded) (accept : call.accept recorded = .error e)
    (fails : answer.Fails e call.buffer?) (took : r.Took recordSize r')
    (resolved : r'.resolved = r.resolved + 1)
  /-- Of the payload only the front is present, and stands in the front of the buffer. -/
  | short {recorded entry : Entry} (used : call.misuse? = none) (ahead : r.ahead = .ok recorded)
    (accept : call.accept recorded = .ok entry) (short : r.behind.length < entry.payloadLength)
    (fails : answer.Fails
      (.log ((r.source.past recordSize).shortfall entry.payloadLength r.behind.length))
      (call.buffer?.map fun buffer => r.behind ++ buffer.drop r.behind.length))
    (took : r.Took (recordSize + r.behind.length) r') (resolved : r'.resolved = r.resolved + 1)
  | delivered {recorded entry : Entry} (used : call.misuse? = none)
    (ahead : r.ahead = .ok recorded) (accept : call.accept recorded = .ok entry)
    (present : entry.payloadLength ≤ r.behind.length)
    (result : answer.result = .ok (entry, r.behind.take entry.payloadLength))
    (buffer : answer.buffer? = call.buffer?.map fun _ => r.behind.take entry.payloadLength)
    (took : r.Took (recordSize + entry.payloadLength) r') (resolved : r'.resolved = r.resolved + 1)

inductive Call.Used : Call → Prop
  | resolve {template : Entry} (plain : ¬template.kind.hasPayload) : Used (.resolve template)
  | resolveData {template : Entry} {buffer : Bytes}
    (kind : ¬(template.kind ≠ .data ∧ template.kind ≠ .snapshot))
    (length : buffer.length = template.payloadLength) : Used (.resolveData template buffer)
  | resolveCmdline {template : Entry} (kind : template.kind = .clientCmdline) :
    Used (.resolveCmdline template)

theorem Call.used_of_misuse? {call : Call} (h : call.misuse? = none) : call.Used := by
  cases call with
  | resolve template =>
    rw [misuse?] at h
    split at h
    · cases h
    · exact .resolve ‹_›
  | resolveData template buffer =>
    rw [misuse?] at h
    split at h
    · cases h
    · split at h
      · cases h
      · exact .resolveData ‹_› (Decidable.not_not.mp ‹_›)
  | resolveCmdline template =>
    rw [misuse?] at h
    split at h
    · cases h
    · exact .resolveCmdline (Decidable.not_not.mp ‹_›)

/-- Where the payload of an entry is read into. -/
def Call.room (entry : Entry) : Call → Bytes
  | .resolve _ => []
  | .resolveData _ buffer => buffer
  | .resolveCmdline _ => Bytes.zeros entry.payloadLength

def Call.pack (result : Except Desync Entry) (filled : Bytes) : Call → Answer
  | .resolve _ => .resolve result
  | .resolveData .. => .resolveData result filled
  | .resolveCmdline _ => .resolveCmdline (result.map (·, filled))

def Call.failed (e : Desync) (call : Call) : Answer := call.pack (.error e) (call.buffer?.getD [])

theorem Call.result_pack_error (e : Desync) (filled : Bytes) (call : Call) :
    (call.pack (.error e) filled).result = .error e := by
  cases call with
  | resolve => rfl
  | resolveData => rfl
  | resolveCmdline => rfl

theorem Call.buffer?_pack (result : Except Desync Entry) (filled : Bytes) (call : Call) :
    (call.pack result filled).buffer? = call.buffer?.map fun _ => filled := by
  cases call with
  | resolve => rfl
  | resolveData => rfl
  | resolveCmdline => rfl

theorem Call.failed_fails (e : Desync) (call : Call) : (call.failed e).Fails e call.buffer? := by
  refine ⟨call.result_pack_error e _, ?_⟩
  cases call with
  | resolve => rfl
  | resolveData => rfl
  | resolveCmdline => rfl

theorem Call.result_pack {call : Call} {entry : Entry} {filled : Bytes}
    (h : filled.length = (call.room entry).length) :
    (call.pack (.ok entry) filled).result = .ok (entry, filled) := by
  cases call with
  | resolve =>
    cases List.eq_nil_of_length_eq_zero h
    rfl
  | resolveData => rfl
  | resolveCmdline => rfl

theorem readFor_nil (r : Reader) (entry : Entry) : r.readFor entry [] = (.ok entry, [], r) := by
  have hfill : r.source.fill 0 = ({ bytes := [] }, r.source) := by
    rw [Source.fill, if_pos rfl]
  rw [readFor, Source.readPayload, List.length_nil, hfill]
  rfl

/-- The three ways to ask for an entry are one, but for the room for its payload. -/
theorem answer_eq {call : Call} (h : call.misuse? = none) (r : Reader) :
    r.answer call =
      match r.nextEntry with
      | (.error e, next) => (call.failed e, next)
      | (.ok recorded, next) =>
        match call.accept recorded with
        | .error e => (call.failed e, next)
        | .ok entry =>
          let (result, filled, last) := next.readFor entry (call.room entry)
          (call.pack result filled, last) := by
  cases Call.used_of_misuse? h with
  | @resolve template hplain =>
    rw [answer, resolve, if_neg hplain, settleNext]
    rcases r.nextEntry with ⟨e | recorded, next⟩
    · rfl
    · dsimp only [Call.accept]
      cases template.settle recorded with
      | error e => rfl
      | ok entry =>
        dsimp only [Call.room]
        rw [readFor_nil]
        rfl
  | @resolveData template buffer hkind hlength =>
    rw [answer, resolveData_eq hkind hlength, settleNext]
    rcases r.nextEntry with ⟨e | recorded, next⟩
    · rfl
    · dsimp only [Call.accept]
      cases template.settle recorded with
      | error e => rfl
      | ok entry => rfl
  | @resolveCmdline template hkind =>
    rw [answer, resolveCmdline_eq hkind, settleNext]
    rcases r.nextEntry with ⟨e | recorded, next⟩
    · rfl
    · dsimp only [Call.accept]
      cases template.settle recorded with
      | error e => rfl
      | ok entry =>
        dsimp only
        rw [readText]
        split
        · rfl
        · dsimp only [Call.room]
          rcases next.readFor entry (Bytes.zeros entry.payloadLength) with ⟨e | entry, text, last⟩
          · rfl
          · rfl

theorem answer_of_misuse {call : Call} {e : Desync} (h : call.misuse? = some e) (r : Reader) :
    r.answer call = (call.failed e, r) := by
  cases call with
  | resolve template =>
    rw [Call.misuse?] at h
    split at h
    · rename_i hpayload
      cases h
      rw [answer, resolve, if_pos hpayload]
      rfl
    · cases h
  | resolveData template buffer =>
    rw [Call.misuse?] at h
    split at h
    · rename_i hkind
      cases h
      rw [answer, resolveData, if_pos hkind]
      rfl
    · rename_i hkind
      split at h
      · rename_i hbuffer
        cases h
        rw [answer, resolveData, if_neg hkind, if_pos hbuffer]
        rfl
      · cases h
  | resolveCmdline template =>
    rw [Call.misuse?] at h
    split at h
    · rename_i hkind
      cases h
      rw [answer, resolveCmdline, if_pos hkind]
      rfl
    · cases h

theorem Call.length_room {call : Call} {recorded entry : Entry} (h : call.misuse? = none)
    (haccept : call.accept recorded = .ok entry) :
    (call.room entry).length = entry.payloadLength := by
  cases used_of_misuse? h with
  | @resolve template hplain =>
    have hkind : template.kind ≠ .clientCmdline := by
      intro heq
      rw [heq] at hplain
      exact hplain rfl
    rw [Entry.payloadLength_of_settle haccept hkind]
    exact (Body.payloadLength_of_not_hasPayload (Bool.eq_false_iff.mpr hplain)).symm
  | @resolveData template buffer hkind hlength =>
    have hcmdline : template.kind ≠ .clientCmdline := by
      intro heq
      rw [heq] at hkind
      exact hkind ⟨Kind.noConfusion, Kind.noConfusion⟩
    rw [Entry.payloadLength_of_settle haccept hcmdline]
    exact hlength
  | resolveCmdline => exact List.length_replicate

theorem Took.of_inFull {r r' : Reader} {count : Nat}
    (h : r'.source.inFull = r.source.inFull.past count) (hcount : count ≤ r.source.present.length) :
    r.Took count r' where
  rest := congrArg Source.rest h
  offset := congrArg Source.offset h
  present := Nat.le_trans hcount r.source.length_present_le

theorem record_of_ahead {r : Reader} {recorded : Entry} (h : r.ahead = .ok recorded) :
    (r.source.present.take recordSize).length = recordSize ∧
      Entry.decode (r.source.present.take recordSize) = .ok recorded := by
  rw [ahead] at h
  split at h
  · rename_i hlength
    refine ⟨hlength, ?_⟩
    cases hdecode : Entry.decode (r.source.present.take recordSize) with
    | error e =>
      rw [hdecode] at h
      cases h
    | ok entry =>
      rw [hdecode] at h
      cases h
      rfl
  · split at h
    · cases h
    · split at h <;> cases h

theorem recordSize_le_of_ahead {r : Reader} {recorded : Entry} (h : r.ahead = .ok recorded) :
    recordSize ≤ r.source.present.length := by
  have hlength := (record_of_ahead h).1
  rw [List.length_take] at hlength
  omega

theorem length_resolveData (r : Reader) (template : Entry) (buffer : Bytes) :
    (r.resolveData template buffer).2.1.length = buffer.length := by
  rw [resolveData]
  split
  · rfl
  · split
    · rfl
    · rcases r.settleNext template with ⟨e | entry, next⟩
      · rfl
      · obtain ⟨_, hfilled, _⟩ := next.source.readPayload_present buffer
        have hlength : (next.source.readPayload buffer).2.1.length = buffer.length := by
          rw [hfilled]
          exact Bytes.length_overwrite (List.length_take_le _ _)
        dsimp only
        generalize next.source.readPayload buffer = reading at hlength ⊢
        obtain ⟨e | _, filled, source⟩ := reading
        · exact hlength
        · exact hlength

theorem readFor_present (r : Reader) (entry : Entry) (room : Bytes) :
    (r.readFor entry room).1 =
        (if r.source.present.length < room.length then
          .error (.log (r.source.shortfall room.length r.source.present.length)) else .ok entry) ∧
      (r.readFor entry room).2.1 = Bytes.overwrite (r.source.present.take room.length) room ∧
      (r.readFor entry room).2.2.source.inFull =
        r.source.inFull.past (min room.length r.source.present.length) ∧
      (r.readFor entry room).2.2.resolved = r.resolved := by
  obtain ⟨hresult, hfilled, hsource⟩ := r.source.readPayload_present room
  rw [readFor]
  generalize r.source.readPayload room = reading at hresult hfilled hsource
  obtain ⟨result, filled, source⟩ := reading
  dsimp only at hresult hfilled hsource
  subst hresult
  by_cases hshort : r.source.present.length < room.length
  · rw [if_pos hshort, if_pos hshort]
    exact ⟨rfl, hfilled, hsource, rfl⟩
  · rw [if_neg hshort, if_neg hshort]
    exact ⟨rfl, hfilled, hsource, rfl⟩

/-- A call that takes the entry ahead and then reads its payload. -/
theorem footprint_of_accept {r next : Reader} {call : Call} {recorded entry : Entry}
    (hmisuse : call.misuse? = none) (hahead : r.ahead = .ok recorded)
    (haccept : call.accept recorded = .ok entry)
    (htook : next.source.inFull = r.source.inFull.past recordSize)
    (hresolved : next.resolved = r.resolved + 1) :
    r.Footprint call (call.pack (next.readFor entry (call.room entry)).1
      (next.readFor entry (call.room entry)).2.1) (next.readFor entry (call.room entry)).2.2 := by
  have hbehind : next.source.present = r.behind := by
    rw [← Source.present_inFull, htook, Source.present_past]
    rfl
  have hshortfall (expected found : Nat) : next.source.shortfall expected found =
      (r.source.past recordSize).shortfall expected found := by
    rw [← Source.shortfall_inFull, htook]
    rfl
  have hlength : r.source.present.length = recordSize + r.behind.length := by
    have hle := recordSize_le_of_ahead hahead
    rw [behind, List.length_drop]
    omega
  obtain ⟨hresult, hfilled, hsource, hsame⟩ := next.readFor_present entry (call.room entry)
  rw [hbehind, Call.length_room hmisuse haccept] at hresult hfilled hsource
  rw [htook, Source.past_past] at hsource
  rw [hshortfall] at hresult
  by_cases hshort : r.behind.length < entry.payloadLength
  · rw [if_pos hshort] at hresult
    rw [List.take_of_length_le (Nat.le_of_lt hshort)] at hfilled
    rw [Nat.min_eq_right (Nat.le_of_lt hshort)] at hsource
    refine .short hmisuse hahead haccept hshort ⟨?_, ?_⟩
      (.of_inFull hsource (Nat.le_of_eq hlength.symm)) (hsame.trans hresolved)
    · rw [hresult, Call.result_pack_error]
    · rw [Call.buffer?_pack, hfilled]
      cases call with
      | resolve => rfl
      | resolveData => rfl
      | resolveCmdline => rfl
  · have hroom := Nat.le_of_not_lt hshort
    rw [if_neg hshort] at hresult
    have hlen : (r.behind.take entry.payloadLength).length = (call.room entry).length := by
      rw [List.length_take_of_le hroom, Call.length_room hmisuse haccept]
    have hwhole : (next.readFor entry (call.room entry)).2.1 = r.behind.take entry.payloadLength := by
      rw [hfilled, Bytes.overwrite_of_length_eq hlen]
    rw [Nat.min_eq_left hroom] at hsource
    refine .delivered hmisuse hahead haccept hroom ?_ ?_
      (.of_inFull hsource (by omega)) (hsame.trans hresolved)
    · rw [hresult, hwhole]
      exact Call.result_pack hlen
    · rw [Call.buffer?_pack, hwhole]

theorem footprint (r : Reader) (call : Call) :
    r.Footprint call (r.answer call).1 (r.answer call).2 := by
  cases hmisuse : call.misuse? with
  | some e =>
    rw [answer_of_misuse hmisuse]
    exact .misused hmisuse (call.failed_fails e) rfl
  | none =>
    obtain ⟨hahead, htook, hresolved⟩ := r.nextEntry_ahead
    rw [answer_eq hmisuse]
    generalize r.nextEntry = reading at hahead htook hresolved
    obtain ⟨found, next⟩ := reading
    dsimp only at hahead htook hresolved
    cases found with
    | error e =>
      rw [← hahead] at hresolved
      exact .unread hmisuse hahead.symm (call.failed_fails e)
        (.of_inFull htook (Nat.min_le_right _ _)) hresolved
    | ok recorded =>
      have hle := recordSize_le_of_ahead hahead.symm
      rw [Nat.min_eq_left hle] at htook
      rw [← hahead] at hresolved
      cases haccept : call.accept recorded with
      | error e =>
        dsimp only
        rw [haccept]
        exact .refused hmisuse hahead.symm haccept (call.failed_fails e) (.of_inFull htook hle)
          hresolved
      | ok entry =>
        dsimp only
        rw [haccept]
        exact footprint_of_accept hmisuse hahead.symm haccept htook hresolved

/-- A call reads on from where the reader stands. -/
theorem answer_suffix (r : Reader) (call : Call) :
    (r.answer call).2.source.rest <:+ r.source.rest := by
  have htook {count : Nat} {r' : Reader} (took : r.Took count r') :
      r'.source.rest <:+ r.source.rest := by
    rw [took.rest]
    exact List.drop_suffix _ _
  cases r.footprint call with
  | misused _ _ still =>
    have hrest : (r.answer call).2.source.rest = r.source.rest := by rw [still]
    exact ⟨[], hrest⟩
  | unread _ _ _ took => exact htook took
  | refused _ _ _ _ took => exact htook took
  | short _ _ _ _ _ took => exact htook took
  | delivered _ _ _ _ _ _ took => exact htook took

/-- A buffer that was filled holds the payload of the passage that the reader stood in front of. -/
theorem passage_of_resolveData {r r' : Reader} {template entry : Entry} {buffer filled : Bytes}
    (h : r.resolveData template buffer = (.ok entry, filled, r')) :
    ∃ p : Passage, template.settle p.entry = .ok entry ∧ p.payload = filled ∧
      r.source.rest = p.bytes ++ r'.source.rest := by
  have hfootprint := r.footprint (.resolveData template buffer)
  have hanswer : r.answer (.resolveData template buffer) = (.resolveData (.ok entry) filled, r') := by
    rw [answer, h]
  rw [hanswer] at hfootprint
  cases hfootprint with
  | misused _ fails => cases fails.1
  | unread _ _ fails => cases fails.1
  | refused _ _ _ fails => cases fails.1
  | short _ _ _ _ fails => cases fails.1
  | @delivered recorded _ _ ahead accept present result _ took =>
    cases result
    obtain ⟨hlength, hdecode⟩ := record_of_ahead ahead
    obtain ⟨_, _, hsettles⟩ := Entry.settle_eq_ok_iff.mp accept
    let p : Passage := ⟨_, recorded, r.behind.take entry.payloadLength, hlength, hdecode,
      (List.length_take_of_le present).trans hsettles.payloadLength_result⟩
    refine ⟨p, accept, rfl, ?_⟩
    have hbytes : p.bytes = r.source.present.take (recordSize + entry.payloadLength) := by
      rw [List.take_add]
      rfl
    have hpresent : recordSize + entry.payloadLength ≤ r.source.present.length := by
      have hle := recordSize_le_of_ahead ahead
      rw [behind, List.length_drop] at present
      omega
    rw [hbytes, took.rest, Source.take_present hpresent, List.take_append_drop]

/-- What every call leaves behind, on every source and wherever the reader stands in it. If no read
fails, all bytes that are left are present and a payload that is cut short is reported as such. -/
theorem answer_footprint (r : Reader) (call : Call) :
    r.Footprint call (r.answer call).1 (r.answer call).2 ∧
    (r.source.policy.failure = none → r.source.present = r.source.rest ∧
      ∀ expected found, (r.source.past recordSize).shortfall expected found =
        .truncated expected found) :=
  ⟨r.footprint call, fun h => ⟨Source.present_of_steady h, Source.shortfall_of_steady h⟩⟩

/-- An image of three bytes of which the log has two: they stand in the front of the buffer. -/
theorem answer_footprint_torn :
    let r := Reader.plain ((Entry.snapshot ⟨1⟩ 3).encode ++ [1, 2]) 0 0
    let answered := r.answer (.resolveData (Entry.snapshot ⟨1⟩ 3) [9, 9, 9])
    answered.1.Fails (.log (.truncated 3 2)) (some [1, 2, 9]) ∧ r.Took 26 answered.2 ∧
      answered.2.resolved = 1 := by
  intro r answered
  obtain ⟨hfootprint, hsteady⟩ := answer_footprint r (.resolveData (Entry.snapshot ⟨1⟩ 3) [9, 9, 9])
  obtain ⟨-, hshortfall⟩ := hsteady rfl
  have hahead : r.ahead = .ok (Entry.snapshot ⟨1⟩ 3) := rfl
  cases hfootprint with
  | misused misuse => nomatch misuse
  | unread _ ahead => cases hahead.symm.trans ahead
  | refused _ ahead accept =>
    cases hahead.symm.trans ahead
    nomatch accept
  | delivered _ ahead accept present =>
    cases hahead.symm.trans ahead
    cases accept
    exact absurd present (by decide)
  | short _ ahead accept _ fails took resolved =>
    cases hahead.symm.trans ahead
    cases accept
    rw [hshortfall] at fails
    exact ⟨fails, took, resolved⟩

end Reader

end Retrace.Log
