import Mathlib.Data.List.Forall2
import Retrace.Proofs.Log.CrashPrefix
import Retrace.Proofs.Log.Lockstep

namespace Retrace.Log

/-- What a run knows of an entry before it is read. What only the log knows is blank. -/
def Body.foreknown : Body → Body
  | syscallArgs caller sysno => .syscallArgs caller sysno
  | syscallRet _ => .syscallRet 0
  | dispatchCounter before _ => .dispatchCounter before 0
  | threadCreate .. => .threadCreate .nobody ⟨0⟩
  | acquire .. => .acquire .nobody .normal
  | release tag => .release tag
  | timestamp .. => .timestamp 0 0
  | clientCmdline _ => .clientCmdline 0
  | initClientStack .. => .initClientStack 0 0
  | initMemLayout .. => .initMemLayout 0 0
  | data len _ => .data len 0
  | snapshot len => .snapshot len

/-- A recorded body in a run that has its own address for the memory in it. -/
def Body.relocated (recorded template : Body) : Body :=
  match recorded, template with
  | .data len _, .data _ addr => .data len addr
  | _, _ => recorded

namespace Entry

def foreknown (e : Entry) : Entry := ⟨e.thread, e.body.foreknown⟩

def relocated (recorded template : Entry) : Entry :=
  ⟨recorded.thread, recorded.body.relocated template.body⟩

/-- A template that has what a run knows is settled, unless a replay refuses the recorded entry. -/
theorem settle_of_foreknown {template recorded : Entry}
    (h : template.foreknown = recorded.foreknown) (hrefusal : recorded.refusal? = none) :
    template.settle recorded = .ok (recorded.relocated template) := by
  obtain ⟨thread, body⟩ := template
  obtain ⟨thread', body'⟩ := recorded
  simp only [foreknown, mk.injEq] at h
  obtain ⟨rfl, hbody⟩ := h
  have hslot {holder : ThreadId}
      (hsome : refusal? ⟨thread, body'⟩ =
        if holder.index < slotLimit then none else some (.slotOutOfRange holder.slot)) :
      holder.index < slotLimit := by
    rw [hsome] at hrefusal
    split at hrefusal
    · assumption
    · cases hrefusal
  have hsettles : body.Settles body' (body'.relocated body) := by
    -- Only bodies of one kind whose known fields are the same are left.
    cases body <;> cases body' <;> cases hbody
    case threadCreate.threadCreate.refl => exact .threadCreate _ _ _ _ (hslot rfl)
    case acquire.acquire.refl => exact .acquire _ _ _ _ (hslot rfl)
    all_goals constructor
  exact settle_eq_ok_iff.mpr ⟨rfl, rfl, hsettles⟩

theorem payloadLength_of_foreknown {e e' : Entry} (h : e.foreknown = e'.foreknown)
    (hkind : e.kind = .data ∨ e.kind = .snapshot) : e.payloadLength = e'.payloadLength := by
  obtain ⟨thread, body⟩ := e
  obtain ⟨thread', body'⟩ := e'
  simp only [foreknown, mk.injEq] at h
  obtain ⟨rfl, hbody⟩ := h
  cases body <;> cases body' <;> cases hbody
  case data.data.refl => rfl
  case snapshot.snapshot.refl => rfl
  all_goals rcases hkind with h | h <;> cases h

end Entry

namespace Reader

/-- A template with its buffer expects an entry with its payload: it has what a run knows of the entry,
and a buffer that is to be filled is as long as the template declares. -/
structure Expects (step recorded : Entry × Bytes) : Prop where
  foreknown : step.1.foreknown = recorded.1.foreknown
  buffer : step.1.kind = .data ∨ step.1.kind = .snapshot → step.2.length = step.1.payloadLength

def delivered (step recorded : Entry × Bytes) : Except Desync (Entry × Bytes) :=
  .ok (recorded.1.relocated step.1, recorded.2)

theorem resolveAs_expected {step : Entry × Bytes} {p : Passage} (h : Expects step p.logged)
    (hrefusal : p.entry.refusal? = none) (tail : Bytes) (offset resolved : Nat) :
    (plain (p.bytes ++ tail) offset resolved).resolveAs step.1 step.2 =
      (delivered step p.logged, plain tail (offset + p.bytes.length) (resolved + 1)) := by
  have hsettle := Entry.settle_of_foreknown h.foreknown hrefusal
  apply resolveAs_settled hsettle hrefusal
  intro hkind
  rw [h.buffer hkind, p.length_payload]
  exact Entry.payloadLength_of_foreknown h.foreknown hkind

theorem drive_expected {steps : List (Entry × Bytes)} {passages : List Passage}
    (h : List.Forall₂ (fun step p => Expects step p.logged) steps passages)
    (hrefusal : ∀ p ∈ passages, p.entry.refusal? = none) (tail : Bytes) (offset resolved : Nat) :
    (plain (Passage.join passages ++ tail) offset resolved).drive steps =
      (List.zipWith delivered steps (passages.map Passage.logged),
        plain tail (offset + (Passage.join passages).length) (resolved + passages.length)) := by
  induction h generalizing offset resolved with
  | nil => rfl
  | @cons step p steps passages hstep _ ih =>
    have hfirst := hrefusal p List.mem_cons_self
    have hrest : ∀ q ∈ passages, q.entry.refusal? = none :=
      fun q hmem => hrefusal q (List.mem_cons_of_mem _ hmem)
    rw [drive, Passage.join_cons, List.append_assoc, resolveAs_expected hstep hfirst]
    dsimp only
    rw [ih hrest, List.map_cons, List.zipWith_cons_cons, List.length_append, Nat.add_assoc,
      Nat.add_assoc, List.length_cons, Nat.add_comm 1]

/-- What was appended is delivered to a run that expects it, entry by entry, and behind the last one
the log has ended. -/
theorem delivers_appended {w last : Writer} {records steps : List (Entry × Bytes)}
    (hempty : w.sink.held = []) (happend : w.appendAll records = (.ok (), last))
    (hrefusal : ∀ r ∈ records, r.1.refusal? = none) (hsteps : List.Forall₂ Expects steps records) :
    (∀ n ≤ records.length,
      (drive ⟨.ofBytes last.sink.held, 0⟩ (steps.take n)).1 =
        (List.zipWith delivered steps records).take n ∧
      (drive ⟨.ofBytes last.sink.held, 0⟩ (steps.take n)).2.resolved = n ∧
      (drive ⟨.ofBytes last.sink.held, 0⟩ (steps.take n)).2.source.offset =
        extent (records.take n)) ∧
    ∀ template : Entry, template.kind.hasPayload = false →
      ((drive ⟨.ofBytes last.sink.held, 0⟩ steps).2.resolve template).1 = .error .endOfLog := by
  obtain ⟨passages, rfl, hheld⟩ := Writer.appendAll_ok happend
  rw [hempty, List.nil_append] at hheld
  have hexpects : List.Forall₂ (fun step p => Expects step p.logged) steps passages :=
    List.forall₂_map_right_iff.mp hsteps
  have hpassages : ∀ p ∈ passages, p.entry.refusal? = none :=
    fun p hmem => hrefusal p.logged (List.mem_map_of_mem hmem)
  have hdrive (n : Nat) : drive ⟨.ofBytes last.sink.held, 0⟩ (steps.take n) =
      (List.zipWith delivered (steps.take n) ((passages.take n).map Passage.logged),
        plain (Passage.join (passages.drop n)) (Passage.join (passages.take n)).length
          (passages.take n).length) := by
    have hfront : ∀ p ∈ passages.take n, p.entry.refusal? = none :=
      fun p hmem => hpassages p (List.mem_of_mem_take hmem)
    have hdrive := drive_expected (List.forall₂_take n hexpects) hfront
      (Passage.join (passages.drop n)) 0 0
    rwa [← Passage.join_append, List.take_append_drop, ← hheld, Nat.zero_add, Nat.zero_add] at hdrive
  constructor
  · intro n hn
    rw [List.length_map] at hn
    rw [hdrive]
    refine ⟨?_, List.length_take_of_le hn, ?_⟩
    · rw [List.map_take, List.take_zipWith]
    · rw [← List.map_take, extent_logged]
      rfl
  · intro template htemplate
    have hall : steps.take passages.length = steps := by
      rw [← hexpects.length_eq, List.take_length]
    have hend := hdrive passages.length
    rw [hall, List.drop_length] at hend
    rw [hend, resolve, htemplate, if_neg Bool.false_ne_true, settleNext, Passage.join_nil,
      plain_nextEntry_nil]

theorem delivers_appended_elsewhere :
    let w := (({ sink := {} } : Writer).appendAll sampleRecords).2
    let steps : List (Entry × Bytes) :=
      [(.acquire .nobody .unknown, []), (.data .main 3 0x2000, [9, 9, 9])]
    ({ sink := {} } : Writer).appendAll sampleRecords = (.ok (), w) ∧
      (∀ r ∈ sampleRecords, r.1.refusal? = none) ∧ List.Forall₂ Expects steps sampleRecords ∧
      (drive ⟨.ofBytes w.sink.held, 0⟩ steps).1 =
        [.ok (.acquire .main .normal, []), .ok (.data .main 3 0x2000, [1, 2, 3])] ∧
      (drive ⟨.ofBytes w.sink.held, 0⟩ steps).2.resolved = 2 ∧
      ((drive ⟨.ofBytes w.sink.held, 0⟩ steps).2.resolve (.syscallRet .main 0)).1 =
        .error .endOfLog := by
  intro w steps
  have happend : ({ sink := {} } : Writer).appendAll sampleRecords = (.ok (), w) :=
    Prod.ext (by decide +kernel) rfl
  have hrefusal : ∀ r ∈ sampleRecords, r.1.refusal? = none := by decide +kernel
  have hacquire : Expects (.acquire .nobody .unknown, []) (.acquire .main .normal, []) :=
    ⟨rfl, fun h => by rcases h with h | h <;> cases h⟩
  have hdata : Expects (.data .main 3 0x2000, [9, 9, 9]) (.data .main 3 0x1000, [1, 2, 3]) :=
    ⟨rfl, fun _ => rfl⟩
  have hsteps : List.Forall₂ Expects steps sampleRecords := .cons hacquire (.cons hdata .nil)
  obtain ⟨hdelivered, hend⟩ := delivers_appended rfl happend hrefusal hsteps
  obtain ⟨hresults, hresolved, _⟩ := hdelivered 2 (Nat.le_refl _)
  exact ⟨happend, hrefusal, hsteps, hresults, hresolved, hend _ rfl⟩

end Reader

end Retrace.Log
