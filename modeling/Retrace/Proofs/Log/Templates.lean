import Retrace.Proofs.Log.Resolving

namespace Retrace

open Log

/-- Two templates that become the same by any recorded entry. -/
structure Log.Body.SettlesAs (body body' : Body) : Prop where
  kind : body.kind = body'.kind
  settle : ∀ recorded, body.settle recorded = body'.settle recorded

/-- Two templates that a recorded entry is checked against alike. -/
structure Log.Body.ChecksAs (body body' : Body) : Prop where
  kind : body.kind = body'.kind
  payloadLength : body.payloadLength = body'.payloadLength
  check : ∀ recorded,
    (body.settle recorded).map (fun _ => ()) = (body'.settle recorded).map fun _ => ()

/-- Two reads into buffers: both fail alike, or both fill the buffers with the same bytes. -/
inductive Log.FillsAs {ε α σ : Type} (agree : σ → σ → Prop) :
    Except ε α × Bytes × σ → Except ε α × Bytes × σ → Prop
  | failed (e : ε) (buffer buffer' : Bytes) {x x' : σ} (h : agree x x') :
    FillsAs agree (.error e, buffer, x) (.error e, buffer', x')
  | filled (a a' : α) (bytes : Bytes) {x x' : σ} (h : agree x x') :
    FillsAs agree (.ok a, bytes, x) (.ok a', bytes, x')

namespace Log

theorem Body.SettlesAs.refl (body : Body) : body.SettlesAs body := ⟨rfl, fun _ => rfl⟩

theorem Body.ChecksAs.refl (body : Body) : body.ChecksAs body := ⟨rfl, rfl, fun _ => rfl⟩

theorem Body.data_checksAs (len addr addr' : UInt64) :
    (Body.data len addr).ChecksAs (.data len addr') := by
  refine ⟨rfl, rfl, fun recorded => ?_⟩
  cases recorded with
  | data len' _ =>
    rw [settle, settle]
    split
    · rfl
    · rfl
  | _ => rfl

theorem Body.SettlesAs.entry {body body' : Body} (h : body.SettlesAs body') (thread : ThreadId)
    (recorded : Entry) :
    Entry.settle ⟨thread, body⟩ recorded = Entry.settle ⟨thread, body'⟩ recorded := by
  rw [Entry.settle, Entry.settle, Entry.kind, Entry.kind, Entry.kind, h.kind, h.settle]

theorem Body.ChecksAs.entry {body body' : Body} (h : body.ChecksAs body') (thread : ThreadId)
    (recorded : Entry) :
    (Entry.settle ⟨thread, body⟩ recorded).map (fun _ => ()) =
      (Entry.settle ⟨thread, body'⟩ recorded).map fun _ => () := by
  have hcheck := h.check recorded.body
  rw [Entry.settle, Entry.settle, Entry.kind, Entry.kind, Entry.kind, h.kind]
  split
  · rfl
  · split
    · rfl
    · dsimp only
      generalize body.settle recorded.body = settled, body'.settle recorded.body = settled' at hcheck
      cases settled <;> cases settled' <;> cases hcheck <;> rfl

theorem Source.readPayload_fills (s : Source) {buffer buffer' : Bytes}
    (hlength : buffer.length = buffer'.length) :
    FillsAs Eq (s.readPayload buffer) (s.readPayload buffer') := by
  rw [readPayload, readPayload, hlength]
  rcases s.fill buffer'.length with ⟨⟨bytes, failure⟩, next⟩
  have hroom : (Bytes.overwrite bytes buffer).length = (Bytes.overwrite bytes buffer').length := by
    rw [Bytes.overwrite, Bytes.overwrite, List.length_append, List.length_append, List.length_drop,
      List.length_drop, hlength]
  cases failure with
  | some reason => exact .failed _ _ _ rfl
  | none =>
    dsimp only
    rw [hroom]
    split
    · exact .failed _ _ _ rfl
    · rename_i hfull
      have hle : buffer'.length ≤ bytes.length := by
        rw [Bytes.overwrite, List.length_append, List.length_drop] at hfull
        omega
      rw [Bytes.overwrite_of_length_le hle, Bytes.overwrite_of_length_le (hlength ▸ hle)]
      exact .filled _ _ _ rfl

namespace Reader

theorem resolve_settlesAs {body body' : Body} (h : body.SettlesAs body') (r : Reader)
    (thread : ThreadId) : r.resolve ⟨thread, body⟩ = r.resolve ⟨thread, body'⟩ := by
  have hnext : r.settleNext ⟨thread, body⟩ = r.settleNext ⟨thread, body'⟩ := by
    rw [settleNext, settleNext]
    rcases r.nextEntry with ⟨e | recorded, r⟩
    · rfl
    · exact congrArg (·, r) (h.entry thread recorded)
  rw [resolve, resolve, Entry.kind, Entry.kind, h.kind, hnext]

theorem settleNext_checksAs {body body' : Body} (h : body.ChecksAs body') (r : Reader)
    (thread : ThreadId) :
    (r.settleNext ⟨thread, body⟩).2 = (r.settleNext ⟨thread, body'⟩).2 ∧
      (r.settleNext ⟨thread, body⟩).1.map (fun _ => ()) =
        (r.settleNext ⟨thread, body'⟩).1.map fun _ => () := by
  rw [settleNext, settleNext]
  rcases r.nextEntry with ⟨e | recorded, r⟩
  · exact ⟨rfl, rfl⟩
  · exact ⟨rfl, h.entry thread recorded⟩

theorem resolveData_fills {body body' : Body} (h : body.ChecksAs body') (r : Reader)
    (thread : ThreadId) {buffer buffer' : Bytes} (hlength : buffer.length = buffer'.length) :
    FillsAs Eq (r.resolveData ⟨thread, body⟩ buffer) (r.resolveData ⟨thread, body'⟩ buffer') := by
  obtain ⟨hreader, hresult⟩ := settleNext_checksAs h r thread
  rw [resolveData, resolveData, Entry.kind, Entry.kind, Entry.payloadLength, Entry.payloadLength,
    h.kind, h.payloadLength, hlength]
  split
  · exact .failed _ _ _ rfl
  · split
    · exact .failed _ _ _ rfl
    · generalize r.settleNext ⟨thread, body⟩ = settled, r.settleNext ⟨thread, body'⟩ = settled'
        at hreader hresult
      obtain ⟨result, r⟩ := settled
      obtain ⟨result', r'⟩ := settled'
      cases hreader
      cases result with
      | error e =>
        cases result' with
        | error e' =>
          cases hresult
          exact .failed _ _ _ rfl
        | ok entry' => cases hresult
      | ok entry =>
        cases result' with
        | error e' => cases hresult
        | ok entry' =>
          have hpayload := r.source.readPayload_fills hlength
          dsimp only
          generalize r.source.readPayload buffer = filled, r.source.readPayload buffer' = filled'
            at hpayload
          cases hpayload with
          | failed e _ _ hsource =>
            cases hsource
            exact .failed _ _ _ rfl
          | filled _ _ bytes hsource =>
            cases hsource
            exact .filled _ _ _ rfl

end Reader

end Log

end Retrace
