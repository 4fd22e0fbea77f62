import Retrace.Proofs.Log.Tiling

namespace Retrace.Log

namespace Entry

/-- Why a replay refuses an entry even if its template is the entry itself. -/
def refusal? (e : Entry) : Option Desync :=
  match e.body with
  | .threadCreate thread _ | .acquire thread _ =>
    if thread.index < slotLimit then none else some (.slotOutOfRange thread.slot)
  | .clientCmdline len =>
    if len.toNat = 0 ∨ cmdlineLimit ≤ len.toNat then some (.cmdlineLength len.toNat) else none
  | _ => none

theorem settle_self_of_payload {e : Entry} (h : e.kind.hasPayload = true) : e.settle e = .ok e := by
  obtain ⟨thread, body⟩ := e
  apply settle_eq_ok_iff.mpr
  cases body with
  | clientCmdline => exact ⟨rfl, rfl, .clientCmdline _ _⟩
  | data => exact ⟨rfl, rfl, .data _ _ _⟩
  | snapshot => exact ⟨rfl, rfl, .snapshot _⟩
  | _ => cases h

theorem settle_self {e : Entry} (h : e.kind.hasPayload = false) :
    e.settle e = match e.refusal? with
      | none => .ok e
      | some reason => .error reason := by
  obtain ⟨thread, body⟩ := e
  have hslot (named : ThreadId) (hrefusal : refusal? ⟨thread, body⟩ =
        if named.index < slotLimit then none else some (.slotOutOfRange named.slot))
      (hsettle : settle ⟨thread, body⟩ ⟨thread, body⟩ =
        (checkSlot named body).map fun body => ⟨thread, body⟩) :
      settle ⟨thread, body⟩ ⟨thread, body⟩ = match refusal? ⟨thread, body⟩ with
        | none => .ok ⟨thread, body⟩
        | some reason => .error reason := by
    rw [hsettle, hrefusal, checkSlot]
    by_cases hlt : named.index < slotLimit
    · rw [if_pos hlt, if_pos hlt]
      rfl
    · rw [if_neg hlt, if_neg hlt]
      rfl
  cases body with
  | threadCreate child _ => exact hslot child rfl (by simp [settle, Body.settle])
  | acquire holder _ => exact hslot holder rfl (by simp [settle, Body.settle])
  | syscallArgs => exact settle_eq_ok_iff.mpr ⟨rfl, rfl, .syscallArgs _ _⟩
  | syscallRet => exact settle_eq_ok_iff.mpr ⟨rfl, rfl, .syscallRet _ _⟩
  | dispatchCounter => exact settle_eq_ok_iff.mpr ⟨rfl, rfl, .dispatchCounter _ _ _⟩
  | release => exact settle_eq_ok_iff.mpr ⟨rfl, rfl, .release _⟩
  | timestamp => exact settle_eq_ok_iff.mpr ⟨rfl, rfl, .timestamp _ _ _ _⟩
  | initClientStack => exact settle_eq_ok_iff.mpr ⟨rfl, rfl, .initClientStack _ _ _ _⟩
  | initMemLayout => exact settle_eq_ok_iff.mpr ⟨rfl, rfl, .initMemLayout _ _ _ _⟩
  | clientCmdline => cases h
  | data => cases h
  | snapshot => cases h

theorem refusal?_of_cmdline {e : Entry} (h : e.kind = .clientCmdline) :
    e.refusal? = if e.payloadLength = 0 ∨ cmdlineLimit ≤ e.payloadLength then
      some (.cmdlineLength e.payloadLength) else none := by
  obtain ⟨thread, body⟩ := e
  cases body with
  | clientCmdline => rfl
  | _ => cases h

theorem data_of_hasPayload {e : Entry} (h : e.kind.hasPayload = true)
    (hne : e.kind ≠ .clientCmdline) :
    (e.kind = .data ∨ e.kind = .snapshot) ∧ e.refusal? = none := by
  obtain ⟨thread, body⟩ := e
  cases body with
  | data => exact ⟨.inl rfl, rfl⟩
  | snapshot => exact ⟨.inr rfl, rfl⟩
  | clientCmdline => exact (hne rfl).elim
  | _ => cases h

end Entry

namespace Reader

/-- Resolves an entry in the way of its kind. The buffer takes the payload where the template says how
long it is. -/
def resolveAs (r : Reader) (template : Entry) (buffer : Bytes) :
    Except Desync (Entry × Bytes) × Reader :=
  if template.kind = .clientCmdline then r.resolveCmdline template
  else if template.kind.hasPayload then
    let (result, filled, r) := r.resolveData template buffer
    (result.map (·, filled), r)
  else
    let (result, r) := r.resolve template
    (result.map (·, []), r)

def drive (r : Reader) : List (Entry × Bytes) → List (Except Desync (Entry × Bytes)) × Reader
  | [] => ([], r)
  | (template, buffer) :: rest =>
    let (result, r) := r.resolveAs template buffer
    let (results, r) := r.drive rest
    (result :: results, r)

/-- What a reader answers that stands in front of an entry and resolves it as its own template: the
entry is refused, or its payload ends too early, or both are delivered. -/
def answerSelf (entry : Entry) (rest : Bytes) : Except Desync (Entry × Bytes) :=
  match entry.refusal? with
  | some reason => .error reason
  | none =>
    if rest.length < entry.payloadLength then
      .error (.log (.truncated entry.payloadLength rest.length))
    else .ok (entry, rest.take entry.payloadLength)

section record

variable {record rest buffer : Bytes} {entry : Entry} {offset resolved : Nat}

theorem settleNext_record (hlength : record.length = recordSize)
    (hdecode : Entry.decode record = .ok entry) (template : Entry) :
    (plain (record ++ rest) offset resolved).settleNext template =
      (template.settle entry, plain rest (offset + recordSize) (resolved + 1)) := by
  rw [settleNext, plain_nextEntry_ok hlength hdecode]

theorem readPayload_of_le (hbuffer : buffer.length ≤ rest.length) :
    (Source.plain rest offset).readPayload buffer =
      (.ok (), rest.take buffer.length,
        .plain (rest.drop buffer.length) (offset + (rest.take buffer.length).length)) := by
  have htake : (rest.take buffer.length).length = buffer.length := List.length_take_of_le hbuffer
  rw [Source.plain_readPayload, if_neg (Nat.not_lt.mpr hbuffer), Bytes.overwrite_of_length_eq htake]

theorem resolveCmdline_record (hlength : record.length = recordSize)
    (hdecode : Entry.decode record = .ok entry) (hkind : entry.kind = .clientCmdline) :
    ((plain (record ++ rest) offset resolved).resolveCmdline entry).1 = answerSelf entry rest := by
  have hpayload : entry.kind.hasPayload = true := by
    rw [hkind]
    rfl
  have hzeros : (Bytes.zeros entry.payloadLength).length = entry.payloadLength :=
    Bytes.length_zeros _
  rw [resolveCmdline, if_neg (fun h => h hkind), settleNext_record hlength hdecode,
    Entry.settle_self_of_payload hpayload, answerSelf, Entry.refusal?_of_cmdline hkind]
  dsimp only
  by_cases hrefused : entry.payloadLength = 0 ∨ cmdlineLimit ≤ entry.payloadLength
  · rw [if_pos hrefused, if_pos hrefused]
  · rw [if_neg hrefused, if_neg hrefused, plain]
    by_cases hshort : rest.length < entry.payloadLength
    · simp only [Source.plain_readPayload, hzeros, if_pos hshort]
    · have hroom : (Bytes.zeros entry.payloadLength).length ≤ rest.length := by
        rw [hzeros]
        exact Nat.le_of_not_lt hshort
      simp only [readPayload_of_le hroom, hzeros, if_neg hshort]

theorem resolveData_record (hlength : record.length = recordSize)
    (hdecode : Entry.decode record = .ok entry) (hpayload : entry.kind.hasPayload = true)
    (hne : entry.kind ≠ .clientCmdline) (hbuffer : buffer.length = entry.payloadLength) :
    let answer := (plain (record ++ rest) offset resolved).resolveData entry buffer
    answer.1.map (·, answer.2.1) = answerSelf entry rest := by
  obtain ⟨hdata, hrefusal⟩ := Entry.data_of_hasPayload hpayload hne
  have hkinds : ¬(entry.kind ≠ .data ∧ entry.kind ≠ .snapshot) := by
    rcases hdata with h | h
    · exact fun hne => hne.1 h
    · exact fun hne => hne.2 h
  rw [resolveData, if_neg hkinds, if_neg (fun h => h hbuffer), settleNext_record hlength hdecode,
    Entry.settle_self_of_payload hpayload, answerSelf, hrefusal]
  dsimp only
  rw [plain]
  by_cases hshort : rest.length < entry.payloadLength
  · simp only [Source.plain_readPayload, hbuffer, if_pos hshort, Except.map]
  · have hroom : buffer.length ≤ rest.length := by
      rw [hbuffer]
      exact Nat.le_of_not_lt hshort
    simp only [readPayload_of_le hroom, hbuffer, if_neg hshort, Except.map]

theorem resolve_record (hlength : record.length = recordSize)
    (hdecode : Entry.decode record = .ok entry) (hplain : entry.kind.hasPayload = false) :
    ((plain (record ++ rest) offset resolved).resolve entry).1.map (·, []) =
      answerSelf entry rest := by
  have hnone : entry.payloadLength = 0 := Body.payloadLength_of_not_hasPayload hplain
  rw [resolve, hplain, if_neg Bool.false_ne_true, settleNext_record hlength hdecode,
    Entry.settle_self hplain, answerSelf, hnone, if_neg (Nat.not_lt_zero _), List.take_zero]
  cases entry.refusal? with
  | none => rfl
  | some reason => rfl

theorem resolveAs_record (hlength : record.length = recordSize)
    (hdecode : Entry.decode record = .ok entry) (hbuffer : buffer.length = entry.payloadLength) :
    ((plain (record ++ rest) offset resolved).resolveAs entry buffer).1 =
      answerSelf entry rest := by
  rw [resolveAs]
  by_cases hcmdline : entry.kind = .clientCmdline
  · rw [if_pos hcmdline]
    exact resolveCmdline_record hlength hdecode hcmdline
  · rw [if_neg hcmdline]
    cases hpayload : entry.kind.hasPayload with
    | true => exact resolveData_record hlength hdecode hpayload hcmdline hbuffer
    | false => exact resolve_record hlength hdecode hpayload

end record

theorem resolveAs_settled {p : Passage} {template result : Entry} {buffer : Bytes}
    (hsettle : template.settle p.entry = .ok result) (hrefusal : p.entry.refusal? = none)
    (hbuffer : template.kind = .data ∨ template.kind = .snapshot → buffer.length = p.payload.length)
    (tail : Bytes) (offset resolved : Nat) :
    (plain (p.bytes ++ tail) offset resolved).resolveAs template buffer =
      (.ok (result, p.payload), plain tail (offset + p.bytes.length) (resolved + 1)) := by
  have hkind : p.entry.kind = template.kind := (Entry.settle_eq_ok_iff.mp hsettle).2.2.kind_eq
  have hlength := p.length_payload
  rw [resolveAs]
  by_cases hcmdline : template.kind = .clientCmdline
  · rw [Entry.refusal?_of_cmdline (hkind.trans hcmdline)] at hrefusal
    split at hrefusal
    · cases hrefusal
    · rename_i hfits
      rw [if_pos hcmdline]
      exact resolveCmdline_passage hcmdline hsettle (by omega) (by omega) tail offset resolved
  · rw [if_neg hcmdline]
    cases hpayload : template.kind.hasPayload with
    | true =>
      have hdata := (Entry.data_of_hasPayload hpayload hcmdline).1
      rw [if_pos rfl, resolveData_passage hdata hsettle (hbuffer hdata)]
      rfl
    | false =>
      have hnone : p.payload = [] := by
        apply List.eq_nil_of_length_eq_zero
        rw [hlength]
        apply Body.payloadLength_of_not_hasPayload
        change p.entry.kind.hasPayload = false
        rw [hkind, hpayload]
      rw [if_neg Bool.false_ne_true, resolve_passage hnone hpayload, hsettle, hnone]
      rfl

theorem resolveAs_passage {p : Passage} {buffer : Bytes} (hrefusal : p.entry.refusal? = none)
    (hbuffer : buffer.length = p.entry.payloadLength) (tail : Bytes) (offset resolved : Nat) :
    (plain (p.bytes ++ tail) offset resolved).resolveAs p.entry buffer =
      (.ok p.logged, plain tail (offset + p.bytes.length) (resolved + 1)) := by
  have hsettle : p.entry.settle p.entry = .ok p.entry := by
    cases hpayload : p.entry.kind.hasPayload with
    | true => exact Entry.settle_self_of_payload hpayload
    | false => rw [Entry.settle_self hpayload, hrefusal]
  exact resolveAs_settled hsettle hrefusal (fun _ => hbuffer.trans p.length_payload.symm) tail offset
    resolved

/-- What a cursor shows and a replay does not refuse, the reader delivers, entry by entry. -/
theorem drive_join {passages : List Passage} {templates : List (Entry × Bytes)}
    (htemplates : templates.map Prod.fst = passages.map (·.entry))
    (hfits : ∀ template ∈ templates,
      template.1.refusal? = none ∧ template.2.length = template.1.payloadLength)
    (tail : Bytes) (offset resolved : Nat) :
    (plain (Passage.join passages ++ tail) offset resolved).drive templates =
      (passages.map fun p => .ok p.logged,
        plain tail (offset + (Passage.join passages).length) (resolved + passages.length)) := by
  induction passages generalizing templates offset resolved with
  | nil =>
    cases List.map_eq_nil_iff.mp htemplates
    rfl
  | cons p passages ih =>
    obtain ⟨⟨template, buffer⟩, rest, rfl, hentry, hrest⟩ := List.map_eq_cons_iff.mp htemplates
    cases hentry
    obtain ⟨hrefusal, hbuffer⟩ := hfits _ List.mem_cons_self
    have htail : ∀ template ∈ rest,
        template.1.refusal? = none ∧ template.2.length = template.1.payloadLength :=
      fun template hmem => hfits template (List.mem_cons_of_mem _ hmem)
    rw [drive, Passage.join_cons, List.append_assoc, resolveAs_passage hrefusal hbuffer]
    dsimp only
    rw [ih hrest htail, List.map_cons, List.length_append, Nat.add_assoc, Nat.add_assoc,
      List.length_cons, Nat.add_comm 1]

end Reader

namespace Cursor

def skip (c : Cursor) : Nat → Cursor
  | 0 => c
  | count + 1 => c.next.2.skip count

def ahead (c : Cursor) : Except LogError (Option Entry) :=
  match c.source.readRecord.1 with
  | .error e => .error e
  | .ok none => .ok none
  | .ok (some record) => (Entry.decode record).map some

theorem plain_next_passage (p : Passage) (tail : Bytes) (index offset : Nat) :
    (plain (p.bytes ++ tail) index offset).next =
      (some (.ok ⟨index, offset, p.entry, p.payload⟩),
        plain tail (index + 1) (offset + p.size)) := by
  rw [next, plain_readNext_passage]
  rfl

theorem skip_join (passages : List Passage) (tail : Bytes) (index offset : Nat) :
    (plain (Passage.join passages ++ tail) index offset).skip passages.length =
      plain tail (index + passages.length) (offset + (Passage.join passages).length) := by
  induction passages generalizing index offset with
  | nil => rfl
  | cons p passages ih =>
    rw [Passage.join_cons, List.append_assoc, List.length_cons, skip, plain_next_passage, ih]
    rw [List.length_append, Passage.length_bytes, Nat.add_assoc, Nat.add_assoc, Nat.add_comm 1]

theorem plain_ahead_record {record : Bytes} (h : record.length = recordSize) (rest : Bytes)
    (index offset : Nat) :
    (plain (record ++ rest) index offset).ahead = (Entry.decode record).map some := by
  rw [ahead, plain, Source.plain_readRecord_append h]

end Cursor

/-- How a reader meets the end of a log in which a cursor found no more entries: at the end, in a
record that holds no entry, or in one whose payload is cut off. -/
def Reader.MeetsEnd (r : Reader) (ahead : Except LogError (Option Entry))
    (ending : Option LogError) : Prop :=
  match ahead with
  | .ok none =>
    ending = none ∧
      ∀ template : Entry, template.kind.hasPayload = false →
        (r.resolve template).1 = .error .endOfLog
  | .error e =>
    ending = some e ∧
      ∀ template : Entry, template.kind.hasPayload = false →
        (r.resolve template).1 = .error (.log e)
  | .ok (some entry) =>
    ∃ found, found < entry.payloadLength ∧
      ending = some (.truncated entry.payloadLength found) ∧
      ∀ buffer : Bytes, buffer.length = entry.payloadLength →
        (r.resolveAs entry buffer).1 =
          .error (entry.refusal?.getD (.log (.truncated entry.payloadLength found)))

theorem Remainder.meetsEnd {rest : Bytes} {ending : Option LogError} (h : Remainder rest ending)
    (index offset resolved : Nat) :
    (Reader.plain rest offset resolved).MeetsEnd (Cursor.plain rest index offset).ahead ending := by
  have hresolve {template : Entry} (htemplate : template.kind.hasPayload = false) :
      (Reader.plain rest offset resolved).resolve template =
        (Reader.plain rest offset resolved).settleNext template := by
    rw [Reader.resolve, htemplate, if_neg Bool.false_ne_true]
  cases h with
  | nothing =>
    have hahead : (Cursor.plain [] index offset).ahead = .ok none := by
      rw [Cursor.ahead, Cursor.plain, Source.plain_readRecord_nil]
    rw [hahead]
    constructor
    · rfl
    · intro template htemplate
      rw [hresolve htemplate, Reader.settleNext, Reader.plain_nextEntry_nil]
  | shortRecord hpos hshort =>
    have hahead : (Cursor.plain rest index offset).ahead =
        .error (.truncated recordSize rest.length) := by
      rw [Cursor.ahead, Cursor.plain, Source.plain_readRecord_short hpos hshort]
    rw [hahead]
    constructor
    · rfl
    · intro template htemplate
      rw [hresolve htemplate, Reader.settleNext, Reader.plain_nextEntry_short hpos hshort]
  | undecodable hlength hdecode behind =>
    rw [Cursor.plain_ahead_record hlength, hdecode]
    constructor
    · rfl
    · intro template htemplate
      rw [hresolve htemplate, Reader.settleNext, Reader.plain_nextEntry_error hlength hdecode]
  | shortPayload hlength hdecode hshort =>
    rename_i record payload entry
    rw [Cursor.plain_ahead_record hlength, hdecode]
    refine ⟨payload.length, hshort, rfl, ?_⟩
    intro buffer hbuffer
    rw [Reader.resolveAs_record hlength hdecode hbuffer, Reader.answerSelf, if_pos hshort]
    cases entry.refusal? with
    | none => rfl
    | some reason => rfl

/-- A reader that resolved the first entries a cursor showed is where the cursor was behind them, and
what comes next is the same for both: an entry, unless it is refused, or the end. -/
structure Reader.InStep (log : Bytes) (recorded : List Recorded) (ending : Option LogError)
    (templates : List (Entry × Bytes)) : Prop where
  delivered : (drive ⟨.ofBytes log, 0⟩ templates).1 =
    (recorded.take templates.length).map fun r => .ok (r.entry, r.payload)
  resolved_eq : (drive ⟨.ofBytes log, 0⟩ templates).2.resolved = templates.length
  offset_eq : (drive ⟨.ofBytes log, 0⟩ templates).2.source.offset =
    ((Cursor.start (.ofBytes log)).skip templates.length).offset
  refused : ∀ next reason, recorded[templates.length]? = some next →
    next.entry.refusal? = some reason →
    ∀ buffer : Bytes, buffer.length = next.entry.payloadLength →
      ((drive ⟨.ofBytes log, 0⟩ templates).2.resolveAs next.entry buffer).1 = .error reason
  meetsEnd : templates.length = recorded.length →
    (drive ⟨.ofBytes log, 0⟩ templates).2.MeetsEnd
      ((Cursor.start (.ofBytes log)).skip templates.length).ahead ending

theorem take_layOut (front behind : List Passage) (index offset : Nat) :
    ((layOut index offset ((front ++ behind).map Passage.logged)).take front.length).map
      (fun r => (r.entry, r.payload)) = front.map Passage.logged := by
  rw [List.map_take, map_layOut, List.map_append]
  exact List.take_left' (List.length_map _)

theorem passage_of_layOut {front behind : List Passage} {index offset : Nat} {next : Recorded}
    (h : (layOut index offset ((front ++ behind).map Passage.logged))[front.length]? = some next) :
    ∃ p rest, behind = p :: rest ∧ p.entry = next.entry := by
  have hlogged : ((front ++ behind).map Passage.logged)[front.length]? =
      some (next.entry, next.payload) := by
    rw [← map_layOut index offset ((front ++ behind).map Passage.logged), List.getElem?_map, h]
    rfl
  rw [List.getElem?_map, List.getElem?_append_right (Nat.le_refl _), Nat.sub_self] at hlogged
  cases behind with
  | nil => cases hlogged
  | cons p rest =>
    have hsame : p.logged = (next.entry, next.payload) := Option.some.inj hlogged
    exact ⟨p, rest, rfl, congrArg Prod.fst hsame⟩

theorem Reader.inStep_of_tiling {front : List Passage} (behind : List Passage) {rest : Bytes}
    {ending : Option LogError} (hremainder : Remainder rest ending) {templates : List (Entry × Bytes)}
    (hentries : templates.map Prod.fst = front.map (·.entry))
    (hfits : ∀ template ∈ templates,
      template.1.refusal? = none ∧ template.2.length = template.1.payloadLength) :
    InStep (Passage.join (front ++ behind) ++ rest)
      (layOut 0 0 ((front ++ behind).map Passage.logged)) ending templates := by
  have hcount : templates.length = front.length := by
    have hlength := congrArg List.length hentries
    rwa [List.length_map, List.length_map] at hlength
  have hlog : Passage.join (front ++ behind) ++ rest =
      Passage.join front ++ (Passage.join behind ++ rest) := by
    rw [Passage.join_append, List.append_assoc]
  have hdrive : drive ⟨.ofBytes (Passage.join (front ++ behind) ++ rest), 0⟩ templates =
      (front.map fun p => .ok p.logged,
        plain (Passage.join behind ++ rest) (0 + (Passage.join front).length)
          (0 + front.length)) := by
    rw [hlog]
    exact drive_join hentries hfits (Passage.join behind ++ rest) 0 0
  have hskip : (Cursor.start (.ofBytes (Passage.join (front ++ behind) ++ rest))).skip
      templates.length = Cursor.plain (Passage.join behind ++ rest) (0 + front.length)
        (0 + (Passage.join front).length) := by
    rw [hlog, hcount]
    exact Cursor.skip_join front (Passage.join behind ++ rest) 0 0
  constructor
  case delivered =>
    have htake := congrArg (List.map (Except.ok (ε := Desync))) (take_layOut front behind 0 0)
    rw [List.map_map, List.map_map] at htake
    rw [hdrive, hcount]
    exact htake.symm
  case resolved_eq =>
    rw [hdrive, hcount]
    exact Nat.zero_add _
  case offset_eq =>
    rw [hdrive, hskip]
    rfl
  case refused =>
    intro next reason hnext hrefusal buffer hbuffer
    rw [hcount] at hnext
    obtain ⟨p, behind, rfl, hentry⟩ := passage_of_layOut hnext
    rw [← hentry] at hrefusal hbuffer ⊢
    rw [hdrive, Passage.join_cons, List.append_assoc, p.bytes_append]
    dsimp only
    rw [resolveAs_record p.length_record p.decode_record hbuffer, answerSelf, hrefusal]
  case meetsEnd =>
    intro hall
    rw [length_layOut, List.length_map, List.length_append, hcount] at hall
    have hbehind : behind = [] := List.eq_nil_of_length_eq_zero (by omega)
    subst hbehind
    rw [hdrive, hskip]
    exact hremainder.meetsEnd _ _ _

/-- A reader and a cursor agree on every log: the reader resolves what the cursor shows, and meets the
end as the cursor does. -/
theorem Reader.in_step_with_cursor (log : Bytes) :
    ∃ recorded ending,
      Cursor.items (.ofBytes log) = recorded.map .ok ++ (ending.map .error).toList ∧
      ∀ templates : List (Entry × Bytes),
        templates.map Prod.fst <+: recorded.map (·.entry) →
        (∀ template ∈ templates,
          template.1.refusal? = none ∧ template.2.length = template.1.payloadLength) →
        InStep log recorded ending templates := by
  obtain ⟨passages, rest, ending, rfl, hremainder⟩ := Passage.exists_tiling log
  refine ⟨layOut 0 0 (passages.map Passage.logged), ending, Cursor.items_tiling hremainder, ?_⟩
  intro templates hprefix hfits
  rw [Passage.map_entry_layOut] at hprefix
  have hfront := List.prefix_iff_eq_take.mp hprefix
  rw [List.length_map, ← List.map_take] at hfront
  have hsplit := List.take_append_drop templates.length passages
  have hstep := inStep_of_tiling (passages.drop templates.length) hremainder hfront hfits
  rwa [hsplit] at hstep

theorem Reader.in_step_with_cursor_tornImage :
    let result := Entry.syscallRet .main 7
    let log := result.encode ++ ((Entry.snapshot .main 3).encode ++ [1, 2])
    ∃ recorded ending,
      Cursor.items (.ofBytes log) = recorded.map .ok ++ (ending.map .error).toList ∧
      InStep log recorded ending [(result, [])] := by
  intro result log
  obtain ⟨recorded, ending, hitems, hstep⟩ := in_step_with_cursor log
  have hremainder : Remainder ((Entry.snapshot .main 3).encode ++ [1, 2]) (some (.truncated 3 2)) :=
    .shortPayload (Entry.length_encode _) (Entry.decode_encode _) (by decide)
  let passage := Passage.ofEntry result [] rfl
  have hlog : log = Passage.join [passage] ++ ((Entry.snapshot .main 3).encode ++ [1, 2]) := rfl
  have hshown : Cursor.items (.ofBytes log) = [.ok ⟨0, 0, result, []⟩, .error (.truncated 3 2)] := by
    rw [hlog, Cursor.items_tiling hremainder]
    rfl
  refine ⟨recorded, ending, hitems, hstep [(result, [])] ?_ ?_⟩
  · rw [hshown] at hitems
    cases recorded with
    | nil => cases ending <;> cases hitems
    | cons first recorded =>
      have hfirst := (List.cons.inj hitems).1
      cases hfirst
      exact ⟨recorded.map (·.entry), rfl⟩
  · intro template hmem
    cases List.mem_singleton.mp hmem
    exact ⟨rfl, rfl⟩

end Retrace.Log
