import Retrace.Proofs.Log.Resolving

namespace Retrace

open Log

/-- What reads a log, and can do so with more bytes at the end of the log. -/
class ReadsLog (σ : Type) where
  extend : Bytes → σ → σ
  /-- What is still to be read. -/
  left : σ → Bytes
  /-- Whether the log is served in full. -/
  plain : σ → Prop
  extend_nil : ∀ state, extend [] state = state

export ReadsLog (extend left)

instance : ReadsLog Source where
  extend tail s := { s with rest := s.rest ++ tail }
  left s := s.rest
  plain s := ∃ rest offset, s = .plain rest offset
  extend_nil s := by rw [List.append_nil]

instance : ReadsLog Reader where
  extend tail r := { r with source := extend tail r.source }
  left r := left r.source
  plain r := ∃ rest offset resolved, r = .plain rest offset resolved
  extend_nil r := by rw [ReadsLog.extend_nil]

instance {α σ : Type} [ReadsLog σ] : ReadsLog (α × σ) where
  extend tail x := (x.1, extend tail x.2)
  left x := left x.2
  plain x := ReadsLog.plain x.2
  extend_nil x := by rw [ReadsLog.extend_nil]

/-- What is got from a cut log, and from the whole log: the same, or an error at the end of the cut log
where the whole one was read beyond. -/
inductive Cut {ε α σ : Type} [ReadsLog σ] (runsOut : ε → Prop) (tail : Bytes) :
    Except ε α × σ → Except ε α × σ → Prop
  | same (result : Except ε α) {state : σ} (plain : ReadsLog.plain state) :
    Cut runsOut tail (result, state) (result, extend tail state)
  | short {e : ε} {state state' : σ} {result' : Except ε α} (ends : runsOut e)
      (plain : ReadsLog.plain state') (beyond : (left state').length < tail.length) :
    Cut runsOut tail (.error e, state) (result', state')

theorem Cut.of_nil {ε α σ : Type} [ReadsLog σ] {runsOut : ε → Prop} {x : Except ε α × σ}
    (h : ReadsLog.plain x.2) : Cut runsOut [] x x := by
  obtain ⟨result, state⟩ := x
  have hsame : Cut runsOut [] (result, state) (result, extend [] state) := .same result h
  rwa [ReadsLog.extend_nil] at hsame

inductive Log.LogError.RunsOut : LogError → Prop
  | truncated (expected found : Nat) : RunsOut (.truncated expected found)

inductive Log.Desync.RunsOut : Desync → Prop
  | endOfLog : RunsOut .endOfLog
  | log {reason : LogError} (h : reason.RunsOut) : RunsOut (.log reason)

namespace Log

theorem Source.readPayload_cut (rest tail buffer : Bytes) (offset : Nat) :
    Cut LogError.RunsOut tail ((Source.plain rest offset).readPayload buffer)
      ((Source.plain (rest ++ tail) offset).readPayload buffer) := by
  by_cases htail : tail = []
  · subst htail
    rw [List.append_nil, plain_readPayload]
    exact .of_nil ⟨_, _, rfl⟩
  · rw [plain_readPayload, plain_readPayload]
    by_cases hshort : rest.length < buffer.length
    · rw [if_pos hshort]
      have hpos := List.length_pos_iff.mpr htail
      have hbeyond : ((rest ++ tail).drop buffer.length).length < tail.length := by
        rw [List.length_drop, List.length_append]
        omega
      exact .short (.truncated _ _) ⟨_, _, rfl⟩ hbeyond
    · have hroom := Nat.le_of_not_lt hshort
      have hwhole : ¬(rest ++ tail).length < buffer.length := by
        rw [List.length_append]
        omega
      rw [if_neg hshort, if_neg hwhole, List.take_append_of_le_length hroom,
        List.drop_append_of_le_length hroom]
      exact .same _ ⟨_, _, rfl⟩

namespace Reader

theorem nextEntry_left (rest : Bytes) (offset resolved : Nat) :
    left (plain rest offset resolved).nextEntry.2 = rest.drop recordSize := by
  rcases front_cases rest with rfl | ⟨hpos, hshort⟩ | ⟨record, behind, rfl, hlength⟩
  · rw [plain_nextEntry_nil]
    rfl
  · rw [plain_nextEntry_short hpos hshort, List.drop_eq_nil_of_le (Nat.le_of_lt hshort)]
    rfl
  · rw [List.drop_left' hlength]
    cases hdecode : Entry.decode record with
    | error e =>
      rw [plain_nextEntry_error hlength hdecode]
      rfl
    | ok entry =>
      rw [plain_nextEntry_ok hlength hdecode]
      rfl

theorem nextEntry_plain (rest : Bytes) (offset resolved : Nat) :
    ReadsLog.plain (plain rest offset resolved).nextEntry.2 := by
  obtain ⟨read, count, rest', offset', resolved', _, hnext⟩ := nextEntry_reads rest offset resolved
  exact ⟨_, _, _, hnext⟩

theorem nextEntry_cut (rest tail : Bytes) (offset resolved : Nat) :
    Cut Desync.RunsOut tail (plain rest offset resolved).nextEntry
      (plain (rest ++ tail) offset resolved).nextEntry := by
  by_cases htail : tail = []
  · subst htail
    rw [List.append_nil]
    exact .of_nil (nextEntry_plain rest offset resolved)
  · have hpos := List.length_pos_iff.mpr htail
    have hbeyond (hshort : rest.length < recordSize) :
        (left (plain (rest ++ tail) offset resolved).nextEntry.2).length < tail.length := by
      rw [nextEntry_left, List.length_drop, List.length_append]
      omega
    rcases front_cases rest with rfl | ⟨hsome, hshort⟩ | ⟨record, behind, rfl, hlength⟩
    · rw [plain_nextEntry_nil]
      exact .short .endOfLog (nextEntry_plain _ _ _) (hbeyond (by decide))
    · rw [plain_nextEntry_short hsome hshort]
      exact .short (.log (.truncated _ _)) (nextEntry_plain _ _ _) (hbeyond hshort)
    · rw [List.append_assoc]
      cases hdecode : Entry.decode record with
      | error e =>
        rw [plain_nextEntry_error hlength hdecode, plain_nextEntry_error hlength hdecode]
        exact .same _ ⟨_, _, _, rfl⟩
      | ok entry =>
        rw [plain_nextEntry_ok hlength hdecode, plain_nextEntry_ok hlength hdecode]
        exact .same _ ⟨_, _, _, rfl⟩

theorem settleNext_cut (rest tail : Bytes) (offset resolved : Nat) (template : Entry) :
    Cut Desync.RunsOut tail ((plain rest offset resolved).settleNext template)
      ((plain (rest ++ tail) offset resolved).settleNext template) := by
  have hnext := nextEntry_cut rest tail offset resolved
  rw [settleNext, settleNext]
  generalize (plain rest offset resolved).nextEntry = short,
    (plain (rest ++ tail) offset resolved).nextEntry = whole at hnext
  cases hnext with
  | same result hplain =>
    cases result with
    | error e => exact .same _ hplain
    | ok recorded => exact .same _ hplain
  | @short _ _ _ result' hends hplain hbeyond =>
    cases result' with
    | error e => exact .short hends hplain hbeyond
    | ok recorded => exact .short hends hplain hbeyond

theorem resolve_cut (rest tail : Bytes) (offset resolved : Nat) (template : Entry) :
    Cut Desync.RunsOut tail ((plain rest offset resolved).resolve template)
      ((plain (rest ++ tail) offset resolved).resolve template) := by
  rw [resolve, resolve]
  split
  · exact .same _ ⟨_, _, _, rfl⟩
  · exact settleNext_cut rest tail offset resolved template

def readFor (r : Reader) (entry : Entry) (buffer : Bytes) : Except Desync Entry × Bytes × Reader :=
  match r.source.readPayload buffer with
  | (.error e, buffer, source) => (.error (.log e), buffer, { r with source })
  | (.ok (), buffer, source) => (.ok entry, buffer, { r with source })

theorem readFor_left {r : Reader} (h : ReadsLog.plain r) (entry : Entry) (buffer : Bytes) :
    ReadsLog.plain (r.readFor entry buffer).2 ∧
      (left (r.readFor entry buffer).2).length ≤ (left r).length := by
  obtain ⟨rest, offset, resolved, rfl⟩ := h
  have hread := Source.plain_readPayload rest offset buffer
  have hle : (rest.drop buffer.length).length ≤ rest.length := by
    rw [List.length_drop]
    exact Nat.sub_le _ _
  rw [readFor, plain, hread]
  by_cases hshort : rest.length < buffer.length
  · rw [if_pos hshort]
    exact ⟨⟨_, _, _, rfl⟩, hle⟩
  · rw [if_neg hshort]
    exact ⟨⟨_, _, _, rfl⟩, hle⟩

theorem readFor_cut (rest tail buffer : Bytes) (offset resolved : Nat) (entry : Entry) :
    Cut Desync.RunsOut tail ((plain rest offset resolved).readFor entry buffer)
      ((plain (rest ++ tail) offset resolved).readFor entry buffer) := by
  have hpayload : Cut LogError.RunsOut tail
      ((plain rest offset resolved).source.readPayload buffer)
      ((plain (rest ++ tail) offset resolved).source.readPayload buffer) :=
    Source.readPayload_cut rest tail buffer offset
  rw [readFor, readFor]
  generalize (plain rest offset resolved).source.readPayload buffer = short,
    (plain (rest ++ tail) offset resolved).source.readPayload buffer = whole at hpayload
  cases hpayload with
  | @same result state hplain =>
    obtain ⟨filled, source⟩ := state
    obtain ⟨rest', offset', rfl⟩ := hplain
    cases result with
    | error e => exact .same _ ⟨_, _, _, rfl⟩
    | ok _ => exact .same _ ⟨_, _, _, rfl⟩
  | @short _ _ state' result' hends hplain hbeyond =>
    obtain ⟨filled, source⟩ := state'
    obtain ⟨rest', offset', rfl⟩ := hplain
    cases result' with
    | error e => exact .short (.log hends) ⟨_, _, _, rfl⟩ hbeyond
    | ok _ => exact .short (.log hends) ⟨_, _, _, rfl⟩ hbeyond

theorem resolveData_eq {r : Reader} {template : Entry} {buffer : Bytes}
    (hkind : ¬(template.kind ≠ .data ∧ template.kind ≠ .snapshot))
    (hbuffer : buffer.length = template.payloadLength) :
    r.resolveData template buffer =
      match r.settleNext template with
      | (.error e, r) => (.error e, buffer, r)
      | (.ok entry, r) => r.readFor entry buffer := by
  rw [resolveData, if_neg hkind, if_neg (fun h => h hbuffer)]
  rfl

theorem resolveData_cut (rest tail : Bytes) (offset resolved : Nat) (template : Entry)
    (buffer : Bytes) :
    Cut Desync.RunsOut tail ((plain rest offset resolved).resolveData template buffer)
      ((plain (rest ++ tail) offset resolved).resolveData template buffer) := by
  by_cases hkind : template.kind ≠ .data ∧ template.kind ≠ .snapshot
  · rw [resolveData, resolveData, if_pos hkind, if_pos hkind]
    exact .same _ ⟨_, _, _, rfl⟩
  · by_cases hbuffer : buffer.length = template.payloadLength
    · have hsettle := settleNext_cut rest tail offset resolved template
      rw [resolveData_eq hkind hbuffer, resolveData_eq hkind hbuffer]
      generalize (plain rest offset resolved).settleNext template = short,
        (plain (rest ++ tail) offset resolved).settleNext template = whole at hsettle
      cases hsettle with
      | same result hplain =>
        obtain ⟨rest', offset', resolved', rfl⟩ := hplain
        cases result with
        | error e => exact .same _ ⟨_, _, _, rfl⟩
        | ok entry => exact readFor_cut rest' tail buffer offset' resolved' entry
      | @short _ _ state' result' hends hplain hbeyond =>
        cases result' with
        | error e => exact .short hends hplain hbeyond
        | ok entry =>
          obtain ⟨hplain, hle⟩ := readFor_left hplain entry buffer
          exact .short hends hplain (Nat.lt_of_le_of_lt hle hbeyond)
    · rw [resolveData, resolveData, if_neg hkind, if_neg hkind, if_pos hbuffer, if_pos hbuffer]
      exact .same _ ⟨_, _, _, rfl⟩

def readText (r : Reader) (entry : Entry) : Except Desync (Entry × Bytes) × Reader :=
  if entry.payloadLength = 0 ∨ cmdlineLimit ≤ entry.payloadLength then
    (.error (.cmdlineLength entry.payloadLength), r)
  else
    match r.readFor entry (Bytes.zeros entry.payloadLength) with
    | (.error e, _, r) => (.error e, r)
    | (.ok entry, text, r) => (.ok (entry, text), r)

theorem readText_left {r : Reader} (h : ReadsLog.plain r) (entry : Entry) :
    ReadsLog.plain (r.readText entry).2 ∧ (left (r.readText entry).2).length ≤ (left r).length := by
  have hread := readFor_left h entry (Bytes.zeros entry.payloadLength)
  rw [readText]
  split
  · exact ⟨h, Nat.le_refl _⟩
  · split <;> rename_i heq
    · rw [heq] at hread
      exact hread
    · rw [heq] at hread
      exact hread

theorem readText_cut (rest tail : Bytes) (offset resolved : Nat) (entry : Entry) :
    Cut Desync.RunsOut tail ((plain rest offset resolved).readText entry)
      ((plain (rest ++ tail) offset resolved).readText entry) := by
  rw [readText, readText]
  split
  · exact .same _ ⟨_, _, _, rfl⟩
  · have hread := readFor_cut rest tail (Bytes.zeros entry.payloadLength) offset resolved entry
    generalize (plain rest offset resolved).readFor entry _ = short,
      (plain (rest ++ tail) offset resolved).readFor entry _ = whole at hread
    cases hread with
    | @same result state hplain =>
      obtain ⟨text, r⟩ := state
      obtain ⟨rest', offset', resolved', rfl⟩ := hplain
      cases result with
      | error e => exact .same _ ⟨_, _, _, rfl⟩
      | ok entry => exact .same _ ⟨_, _, _, rfl⟩
    | @short _ _ state' result' hends hplain hbeyond =>
      cases result' with
      | error e => exact .short hends hplain hbeyond
      | ok entry => exact .short hends hplain hbeyond

theorem resolveCmdline_eq {r : Reader} {template : Entry} (hkind : template.kind = .clientCmdline) :
    r.resolveCmdline template =
      match r.settleNext template with
      | (.error e, r) => (.error e, r)
      | (.ok entry, r) => r.readText entry := by
  rw [resolveCmdline, if_neg (fun h => h hkind)]
  rcases r.settleNext template with ⟨e | entry, r⟩
  · rfl
  · dsimp only
    rw [readText, readFor]
    split
    · rfl
    · rcases r.source.readPayload (Bytes.zeros entry.payloadLength) with ⟨e | _, filled, source⟩
      · rfl
      · rfl

theorem resolveCmdline_cut (rest tail : Bytes) (offset resolved : Nat) (template : Entry) :
    Cut Desync.RunsOut tail ((plain rest offset resolved).resolveCmdline template)
      ((plain (rest ++ tail) offset resolved).resolveCmdline template) := by
  by_cases hkind : template.kind = .clientCmdline
  · have hsettle := settleNext_cut rest tail offset resolved template
    rw [resolveCmdline_eq hkind, resolveCmdline_eq hkind]
    generalize (plain rest offset resolved).settleNext template = short,
      (plain (rest ++ tail) offset resolved).settleNext template = whole at hsettle
    cases hsettle with
    | same result hplain =>
      obtain ⟨rest', offset', resolved', rfl⟩ := hplain
      cases result with
      | error e => exact .same _ ⟨_, _, _, rfl⟩
      | ok entry => exact readText_cut rest' tail offset' resolved' entry
    | @short _ _ state' result' hends hplain hbeyond =>
      cases result' with
      | error e => exact .short hends hplain hbeyond
      | ok entry =>
        obtain ⟨hplain, hle⟩ := readText_left hplain entry
        exact .short hends hplain (Nat.lt_of_le_of_lt hle hbeyond)
  · rw [resolveCmdline, resolveCmdline, if_pos hkind, if_pos hkind]
    exact .same _ ⟨_, _, _, rfl⟩

end Reader

end Log

end Retrace
