import Retrace.Log.Reader
import Retrace.Proofs.Log.Filling

namespace Retrace.Log

namespace Source

theorem readRecord_inFull (s : Source) :
    s.inFull.readRecord = Prod.map id inFull s.readRecord := by
  rw [readRecord, readRecord, fill_inFull]
  rcases s.fill recordSize with ⟨⟨bytes, failure⟩, next⟩
  cases failure with
  | some reason => rfl
  | none =>
    dsimp only [Prod.map, id]
    split
    · rfl
    · split
      · rfl
      · rfl

theorem readPayload_inFull (s : Source) (buffer : Bytes) :
    s.inFull.readPayload buffer = Prod.map id (Prod.map id inFull) (s.readPayload buffer) := by
  rw [readPayload, readPayload, fill_inFull]
  rcases s.fill buffer.length with ⟨⟨bytes, failure⟩, next⟩
  cases failure with
  | some reason => rfl
  | none =>
    dsimp only [Prod.map, id]
    split
    · rfl
    · rfl

theorem takePayload_inFull (s : Source) (length : Nat) :
    s.inFull.takePayload length = Prod.map id inFull (s.takePayload length) := by
  rw [takePayload, takePayload, fill_inFull]
  rcases s.fill length with ⟨⟨bytes, failure⟩, next⟩
  cases failure with
  | some reason => rfl
  | none =>
    dsimp only [Prod.map, id]
    split
    · rfl
    · rfl

end Source

namespace Cursor

def inFull (c : Cursor) : Cursor := { c with source := c.source.inFull }

theorem readNext_inFull (c : Cursor) : c.inFull.readNext = Prod.map id inFull c.readNext := by
  rw [readNext, readNext, inFull, Source.readRecord_inFull]
  rcases c.source.readRecord with ⟨_ | _ | record, source⟩
  · rfl
  · rfl
  · dsimp only [Prod.map, id]
    cases Entry.decode record with
    | error e => rfl
    | ok entry =>
      dsimp only
      rw [Source.takePayload_inFull]
      rcases source.takePayload entry.payloadLength with ⟨_ | payload, source⟩
      · rfl
      · rfl

theorem next_inFull (c : Cursor) : c.inFull.next = Prod.map id inFull c.next := by
  rw [next, next, readNext_inFull]
  by_cases hfailed : c.failed
  · rw [if_pos hfailed]
    exact if_pos hfailed
  · rw [if_neg hfailed]
    rcases c.readNext with ⟨_ | _ | recorded, rest⟩
    · exact if_neg hfailed
    · exact if_neg hfailed
    · exact if_neg hfailed

theorem walk_inFull (c : Cursor) : c.inFull.walk = Prod.map id inFull c.walk := by
  fun_induction walk c with
  | case1 c hfailed =>
    have hinFull : c.inFull.failed = true := hfailed
    rw [walk, if_pos hinFull]
    rfl
  | case2 c hfailed last hread =>
    have hnext : c.next = (none, last) := by rw [next, if_neg hfailed, hread]
    rw [walk_eq, next_inFull, hnext]
    rfl
  | case3 c hfailed e last hread =>
    have hnext : c.next = (some (.error e), { last with failed := true }) := by
      rw [next, if_neg hfailed, hread]
    have hstuck : (inFull { last with failed := true }).walk =
        ([], inFull { last with failed := true }) := by
      rw [walk]
      exact if_pos rfl
    rw [walk_eq, next_inFull, hnext]
    dsimp only [Prod.map, id]
    rw [hstuck]
  | case4 c hfailed recorded rest hread items last heq ih =>
    have hnext : c.next = (some (.ok recorded), rest) := by rw [next, if_neg hfailed, hread]
    rw [walk_eq, next_inFull, hnext]
    dsimp only [Prod.map, id]
    rw [ih, heq]
    rfl

end Cursor

namespace Reader

def inFull (r : Reader) : Reader := { r with source := r.source.inFull }

theorem nextEntry_inFull (r : Reader) : r.inFull.nextEntry = Prod.map id inFull r.nextEntry := by
  rw [nextEntry, nextEntry, inFull, Source.readRecord_inFull]
  rcases r.source.readRecord with ⟨_ | _ | record, source⟩
  · rfl
  · rfl
  · dsimp only [Prod.map, id]
    cases Entry.decode record with
    | error e => rfl
    | ok entry => rfl

theorem settleNext_inFull (r : Reader) (template : Entry) :
    r.inFull.settleNext template = Prod.map id inFull (r.settleNext template) := by
  rw [settleNext, settleNext, nextEntry_inFull]
  rcases r.nextEntry with ⟨_ | recorded, next⟩
  · rfl
  · rfl

theorem resolve_inFull (r : Reader) (template : Entry) :
    r.inFull.resolve template = Prod.map id inFull (r.resolve template) := by
  rw [resolve, resolve, settleNext_inFull]
  split
  · rfl
  · rfl

theorem resolveData_inFull (r : Reader) (template : Entry) (buffer : Bytes) :
    r.inFull.resolveData template buffer =
      Prod.map id (Prod.map id inFull) (r.resolveData template buffer) := by
  rw [resolveData, resolveData, settleNext_inFull]
  split
  · rfl
  · split
    · rfl
    · rcases r.settleNext template with ⟨_ | entry, next⟩
      · rfl
      · dsimp only [Prod.map, id]
        rw [inFull, Source.readPayload_inFull]
        rcases next.source.readPayload buffer with ⟨_ | _, filled, source⟩
        · rfl
        · rfl

theorem resolveCmdline_inFull (r : Reader) (template : Entry) :
    r.inFull.resolveCmdline template = Prod.map id inFull (r.resolveCmdline template) := by
  rw [resolveCmdline, resolveCmdline, settleNext_inFull]
  split
  · rfl
  · rcases r.settleNext template with ⟨_ | entry, next⟩
    · rfl
    · dsimp only [Prod.map, id]
      split
      · rfl
      · rw [inFull, Source.readPayload_inFull]
        rcases next.source.readPayload (Bytes.zeros entry.payloadLength) with ⟨_ | _, text, source⟩
        · rfl
        · rfl

inductive Call
  | resolve (template : Entry)
  | resolveData (template : Entry) (buffer : Bytes)
  | resolveCmdline (template : Entry)

inductive Answer
  | resolve (result : Except Desync Entry)
  | resolveData (result : Except Desync Entry) (buffer : Bytes)
  | resolveCmdline (result : Except Desync (Entry × Bytes))

def answer (r : Reader) : Call → Answer × Reader
  | .resolve template =>
    let (result, r) := r.resolve template
    (.resolve result, r)
  | .resolveData template buffer =>
    let (result, buffer, r) := r.resolveData template buffer
    (.resolveData result buffer, r)
  | .resolveCmdline template =>
    let (result, r) := r.resolveCmdline template
    (.resolveCmdline result, r)

/-- What is seen of a call: the answer, and how many entries and bytes were read by then. -/
structure Reply where
  answer : Answer
  resolved : Nat
  offset : Nat

def replies (r : Reader) : List Call → List Reply
  | [] => []
  | call :: rest =>
    let (answer, r) := r.answer call
    ⟨answer, r.resolved, r.source.offset⟩ :: r.replies rest

theorem answer_inFull (r : Reader) (call : Call) :
    r.inFull.answer call = Prod.map id inFull (r.answer call) := by
  cases call with
  | resolve template =>
    rw [answer, answer, resolve_inFull]
    rfl
  | resolveData template buffer =>
    rw [answer, answer, resolveData_inFull]
    rfl
  | resolveCmdline template =>
    rw [answer, answer, resolveCmdline_inFull]
    rfl

theorem replies_inFull (r : Reader) (calls : List Call) : r.inFull.replies calls = r.replies calls := by
  induction calls generalizing r with
  | nil => rfl
  | cons call calls ih =>
    rw [replies, replies, answer_inFull]
    dsimp only [Prod.map, id]
    rw [ih]
    rfl

end Reader

/-- How a source chops its reads does not show: records, payloads, the items of a cursor and the replies
of a reader are those from the source in full, with as many bytes read, and each loop that fills a
buffer ends after twice as many reads as it wants bytes. -/
theorem Source.chopping_invisible (s : Source) :
    s.inFull.readRecord = Prod.map id inFull s.readRecord ∧
    (∀ buffer, s.inFull.readPayload buffer = Prod.map id (Prod.map id inFull) (s.readPayload buffer)) ∧
    (Cursor.start s.inFull).walk = Prod.map id Cursor.inFull (Cursor.start s).walk ∧
    (∀ calls, Reader.replies ⟨s.inFull, 0⟩ calls = Reader.replies ⟨s, 0⟩ calls) ∧
    ∀ want, fillWithin (2 * want) s want = some (s.fill want) := by
  refine ⟨s.readRecord_inFull, s.readPayload_inFull, Cursor.walk_inFull (.start s),
    Reader.replies_inFull ⟨s, 0⟩, ?_⟩
  intro want
  apply fillWithin_eq_fill
  have hle := Bool.toNat_le s.willInterrupt
  omega

end Retrace.Log
