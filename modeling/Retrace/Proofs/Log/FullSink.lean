import Retrace.Proofs.Log.CrashPrefix

namespace Retrace.Log

namespace Sink

/-- A sink that takes no more bytes. -/
def Full (s : Sink) : Prop := s.room = some 0

theorem Full.share {s : Sink} (h : s.Full) (want : Nat) : s.share want = 0 := by
  rw [Sink.share, h]
  exact Nat.min_zero _

theorem full_of_write_zero {s next : Sink} {bytes : Bytes} (hne : bytes ≠ [])
    (h : s.write bytes = (0, next)) : s.Full ∧ next.Full ∧ next.held = s.held := by
  have hheld := s.held_write bytes
  rw [h, List.take_zero, List.append_nil] at hheld
  have hpos := List.length_pos_iff.mpr hne
  have hshare : s.share bytes.length = 0 := congrArg Prod.fst h
  have hroom : s.room = some 0 := by
    rw [share] at hshare
    cases hr : s.room with
    | none =>
      cases hc : s.chunk <;> simp only [hr, hc] at hshare <;> omega
    | some room =>
      cases hc : s.chunk <;> simp only [hr, hc] at hshare <;> simp only [Option.some.injEq] <;> omega
  have hnext : next.room = (s.write bytes).2.room := by rw [h]
  refine ⟨hroom, ?_, hheld⟩
  rw [Full, hnext, write, hroom, Option.map_some, Nat.zero_sub]

theorem writeAll_error {s next : Sink} {bytes : Bytes} {reason : IoError}
    (h : s.writeAll bytes = (.error reason, next)) :
    ∃ front, front <+: bytes ∧ front.length < bytes.length ∧ next.held = s.held ++ front ∧
      next.Full ∧ (s.Full → front = []) := by
  fun_induction writeAll s bytes with
  | case1 => cases h
  | case2 s bytes hne next' hwrite =>
    cases h
    have hne : bytes ≠ [] := fun hnil => hne (List.isEmpty_iff.mpr hnil)
    obtain ⟨_, hfull, hheld⟩ := full_of_write_zero hne hwrite
    refine ⟨[], List.nil_prefix, List.length_pos_iff.mpr hne, ?_, hfull, fun _ => rfl⟩
    rw [hheld, List.append_nil]
  | case3 s bytes hne taken next' hwrite ih =>
    obtain ⟨front, ⟨tail, hfront⟩, hlt, hheld, hfull, _⟩ := ih h
    have hwritten := s.held_write bytes
    rw [hwrite] at hwritten
    have htaken : s.share bytes.length = taken + 1 := congrArg Prod.fst hwrite
    refine ⟨bytes.take (taken + 1) ++ front, ⟨tail, ?_⟩, ?_, ?_, hfull, ?_⟩
    · rw [List.append_assoc, hfront, List.take_append_drop]
    · rw [List.length_drop] at hlt
      simp only [List.length_append, List.length_take]
      omega
    · rw [hheld, hwritten, List.append_assoc]
    · intro hroom
      have hshare := hroom.share bytes.length
      omega

theorem Full.writeAll {s : Sink} (h : s.Full) {bytes : Bytes} (hne : bytes ≠ []) :
    ∃ reason next, s.writeAll bytes = (.error reason, next) := by
  have hshare : (s.write bytes).1 = 0 := h.share bytes.length
  rw [Sink.writeAll, if_neg (fun hnil => hne (List.isEmpty_iff.mp hnil))]
  split
  · exact ⟨_, _, rfl⟩
  · rename_i hwrite
    rw [hwrite] at hshare
    cases hshare

end Sink

theorem Entry.encode_ne_nil (e : Entry) : e.encode ≠ [] := by
  intro hnil
  have hlen := e.length_encode
  rw [hnil] at hlen
  cases hlen

theorem extent_append (records records' : List (Entry × Bytes)) :
    extent (records ++ records') = extent records + extent records' := by
  rw [extent, List.map_append, List.sum_append]
  rfl

def written (record : Entry × Bytes) : Bytes := record.1.encode ++ record.2

namespace Writer

/-- All that an append can do: take the entry, refuse a payload of the wrong length, or run out of
room on the way. -/
inductive Appends (w : Writer) (entry : Entry) (payload : Bytes) : Except LogError Unit → Writer → Prop
  | takes {next : Writer} (declared : entry.payloadLength = payload.length)
      (held : next.sink.held = w.sink.held ++ written (entry, payload))
      (appended : next.appended = w.appended + 1)
      (bytesWritten : next.bytesWritten = w.bytesWritten + (recordSize + payload.length))
      (room : ¬w.sink.Full) :
      Appends w entry payload (.ok ()) next
  | refuses (declared : entry.payloadLength ≠ payload.length) :
      Appends w entry payload
        (.error (.payloadLength entry.kind entry.payloadLength payload.length)) w
  | tears {next : Writer} {reason : IoError} {front : Bytes}
      (declared : entry.payloadLength = payload.length)
      (isFront : front <+: written (entry, payload))
      (short : front.length < (written (entry, payload)).length)
      (held : next.sink.held = w.sink.held ++ front) (full : next.sink.Full)
      (nothing : w.sink.Full → front = [])
      (appended : next.appended = w.appended) (bytesWritten : next.bytesWritten = w.bytesWritten) :
      Appends w entry payload (.error (.io reason)) next

theorem append_appends (w : Writer) (entry : Entry) (payload : Bytes) :
    w.Appends entry payload (w.append entry payload).1 (w.append entry payload).2 := by
  rw [append]
  split
  · rename_i hdeclared
    exact .refuses hdeclared
  · rename_i hdeclared
    have hdeclared := Decidable.not_not.mp hdeclared
    split
    · rename_i hrecord
      obtain ⟨front, hfront, hlt, hheld, hfull, hnothing⟩ := Sink.writeAll_error hrecord
      refine .tears hdeclared (hfront.trans (List.prefix_append _ _)) ?_ hheld hfull hnothing rfl rfl
      rw [written, List.length_append]
      exact Nat.lt_add_right _ hlt
    · rename_i sink hrecord
      have hencoded := Sink.held_writeAll hrecord
      have hroom : ¬w.sink.Full := by
        intro hfull
        obtain ⟨reason, next, herror⟩ := hfull.writeAll entry.encode_ne_nil
        rw [hrecord] at herror
        cases herror
      split
      · rename_i hpayload
        obtain ⟨front, hfront, hlt, hheld, hfull, _⟩ := Sink.writeAll_error hpayload
        have hfront : entry.encode ++ front <+: written (entry, payload) :=
          (List.prefix_append_right_inj _).mpr hfront
        refine .tears hdeclared hfront ?_ ?_ hfull (fun hfull => (hroom hfull).elim) rfl rfl
        · rw [written, List.length_append, List.length_append]
          exact Nat.add_lt_add_left hlt _
        · rw [hheld, hencoded, List.append_assoc]
      · rename_i hpayload
        refine .takes hdeclared ?_ rfl rfl hroom
        change _ = w.sink.held ++ (entry.encode ++ payload)
        rw [Sink.held_writeAll hpayload, hencoded, List.append_assoc]

inductive Step
  | append (entry : Entry) (payload : Bytes)
  | barrier

def step (w : Writer) : Step → Except LogError Unit × Writer
  | .append entry payload => w.append entry payload
  | .barrier => w.barrier

def run (w : Writer) : List Step → List (Except LogError Unit) × Writer
  | [] => ([], w)
  | step :: rest =>
    let (result, w) := w.step step
    let (results, w) := w.run rest
    (result :: results, w)

def Step.taken? : Step → Except LogError Unit → Option (Entry × Bytes)
  | .append entry payload, .ok () => some (entry, payload)
  | _, _ => none

def Step.torn? : Step → Except LogError Unit → Option (Entry × Bytes)
  | .append entry payload, .error (.io _) => some (entry, payload)
  | _, _ => none

def taken (steps : List Step) (results : List (Except LogError Unit)) : List (Entry × Bytes) :=
  (steps.zip results).filterMap fun (step, result) => step.taken? result

def firstTorn (steps : List Step) (results : List (Except LogError Unit)) : Option (Entry × Bytes) :=
  (steps.zip results).findSome? fun (step, result) => step.torn? result

/-- What a sink may hold behind the entries that were appended. -/
def Tail (torn : Option (Entry × Bytes)) (tail : Bytes) : Prop :=
  match torn with
  | none => tail = []
  | some record => tail <+: written record ∧ tail.length < (written record).length

/-- What the steps of a run leave in a sink, and in the counts of its writer. Once the sink is full they
leave everything as it was. -/
structure Leaves (w : Writer) (steps : List Step) (results : List (Except LogError Unit))
    (w' : Writer) : Prop where
  held : ∃ tail, Tail (firstTorn steps results) tail ∧
    w'.sink.held = w.sink.held ++ (taken steps results).flatMap written ++ tail
  appended : w'.appended = w.appended + (taken steps results).length
  bytesWritten : w'.bytesWritten = w.bytesWritten + extent (taken steps results)
  full : (firstTorn steps results).isSome → w'.sink.Full
  idle : w.sink.Full → taken steps results = [] ∧ w'.sink.held = w.sink.held ∧ w'.sink.Full

theorem taken_cons (step : Step) (result : Except LogError Unit) (steps : List Step)
    (results : List (Except LogError Unit)) :
    taken (step :: steps) (result :: results) = (step.taken? result).toList ++ taken steps results := by
  cases htaken : step.taken? result <;>
    simp only [taken, List.zip_cons_cons, List.filterMap_cons, htaken, Option.toList_none,
      Option.toList_some, List.nil_append, List.singleton_append]

theorem firstTorn_cons (step : Step) (result : Except LogError Unit) (steps : List Step)
    (results : List (Except LogError Unit)) :
    firstTorn (step :: steps) (result :: results) =
      (step.torn? result).or (firstTorn steps results) := by
  cases htorn : step.torn? result <;>
    simp only [firstTorn, List.zip_cons_cons, List.findSome?_cons, htorn, Option.none_or,
      Option.some_or]

theorem barrier_leaves (w : Writer) : w.Leaves [.barrier] [w.barrier.1] w.barrier.2 := by
  obtain ⟨hheld, happended, hbytes, hroom⟩ := w.barrier_same
  refine ⟨⟨[], rfl, ?_⟩, happended, hbytes, nofun, fun hfull => ⟨rfl, hheld, hroom.trans hfull⟩⟩
  rw [hheld]
  exact (List.append_nil _).symm.trans (List.append_nil _).symm

theorem Appends.leaves {w next : Writer} {entry : Entry} {payload : Bytes}
    {result : Except LogError Unit} (h : w.Appends entry payload result next) :
    w.Leaves [.append entry payload] [result] next := by
  cases h with
  | takes declared held appended bytesWritten room =>
    refine ⟨⟨[], rfl, ?_⟩, appended, ?_, nofun, fun hfull => (room hfull).elim⟩
    · rw [held, List.append_nil]
      exact congrArg _ (List.append_nil _).symm
    · rw [bytesWritten]
      rfl
  | refuses =>
    exact ⟨⟨[], rfl, by simp [taken, Step.taken?]⟩, rfl, rfl, nofun, fun hfull => ⟨rfl, rfl, hfull⟩⟩
  | tears declared isFront short held full nothing appended bytesWritten =>
    refine ⟨⟨_, ⟨isFront, short⟩, ?_⟩, appended, bytesWritten, ?_, ?_⟩
    · rw [held]
      exact congrArg (· ++ _) (List.append_nil _).symm
    · exact fun _ => full
    · intro hfull
      have hheld : next.sink.held = w.sink.held := by rw [held, nothing hfull, List.append_nil]
      exact ⟨rfl, hheld, full⟩

theorem step_leaves (w : Writer) (step : Step) :
    w.Leaves [step] [(w.step step).1] (w.step step).2 := by
  cases step with
  | append entry payload => exact (w.append_appends entry payload).leaves
  | barrier => exact w.barrier_leaves

theorem Leaves.cons {w next w' : Writer} {step : Step} {result : Except LogError Unit}
    {steps : List Step} {results : List (Except LogError Unit)}
    (h : w.Leaves [step] [result] next) (h' : next.Leaves steps results w') :
    w.Leaves (step :: steps) (result :: results) w' := by
  have htaken : taken [step] [result] = (step.taken? result).toList := by
    rw [taken_cons]
    exact List.append_nil _
  have htorn : firstTorn [step] [result] = step.torn? result := by
    rw [firstTorn_cons]
    exact Option.or_none
  obtain ⟨⟨front, hfront, hheld⟩, happended, hbytes, hfull, hidle⟩ := h
  obtain ⟨⟨tail, htail, hheld'⟩, happended', hbytes', hfull', hidle'⟩ := h'
  rw [htaken] at hheld happended hbytes hidle
  rw [htorn] at hfront hfull
  refine ⟨?_, ?_, ?_, ?_, ?_⟩
  · rw [firstTorn_cons, taken_cons]
    cases hstep : step.torn? result with
    | none =>
      rw [hstep] at hfront
      cases hfront
      refine ⟨tail, htail, ?_⟩
      rw [hheld', hheld, List.append_nil, List.flatMap_append, ← List.append_assoc]
    | some record =>
      rw [hstep] at hfront hfull
      obtain ⟨hnothing, hsame, _⟩ := hidle' (hfull rfl)
      refine ⟨front, hfront, ?_⟩
      rw [hsame, hheld, hnothing, List.append_nil]
  · rw [taken_cons, happended', happended, List.length_append, Nat.add_assoc]
  · rw [taken_cons, hbytes', hbytes, extent_append, Nat.add_assoc]
  · rw [firstTorn_cons]
    intro hsome
    cases hstep : step.torn? result with
    | none =>
      rw [hstep] at hsome
      exact hfull' hsome
    | some record =>
      rw [hstep] at hfull
      exact (hidle' (hfull rfl)).2.2
  · intro hroom
    obtain ⟨hnothing, hsame, hroom⟩ := hidle hroom
    obtain ⟨hnothing', hsame', hroom'⟩ := hidle' hroom
    rw [taken_cons, hnothing, hnothing', hsame', hsame]
    exact ⟨rfl, rfl, hroom'⟩

theorem run_leaves (w : Writer) (steps : List Step) :
    w.Leaves steps (w.run steps).1 (w.run steps).2 := by
  induction steps generalizing w with
  | nil =>
    refine ⟨⟨[], rfl, ?_⟩, rfl, rfl, nofun, fun hfull => ⟨rfl, rfl, hfull⟩⟩
    exact (List.append_nil _).symm.trans (List.append_nil _).symm
  | cons step rest ih => exact (w.step_leaves step).cons (ih _)

theorem append_of_ne {entry : Entry} {payload : Bytes} (h : entry.payloadLength ≠ payload.length)
    (w : Writer) : w.append entry payload =
      (.error (.payloadLength entry.kind entry.payloadLength payload.length), w) := by
  rw [append, if_pos h]

theorem append_of_full {w : Writer} (h : w.sink.Full) {entry : Entry} {payload : Bytes}
    (hdeclared : entry.payloadLength = payload.length) :
    ∃ reason next, w.append entry payload = (.error (.io reason), next) ∧
      next.sink.held = w.sink.held := by
  have happends := w.append_appends entry payload
  generalize w.append entry payload = result at happends
  obtain ⟨result, next⟩ := result
  cases happends with
  | takes _ _ _ _ room => exact (room h).elim
  | refuses declared => exact (declared hdeclared).elim
  | tears _ _ _ held _ nothing =>
    refine ⟨_, next, rfl, ?_⟩
    rw [held, nothing h, List.append_nil]

/-- Whatever room a sink has, it holds the entries whose appends succeeded, in order, and behind them at
most a front of the first one that it failed on. The counts are those of the entries. A payload of the
wrong length changes nothing, a barrier changes neither the bytes nor the counts, and after a failure of
the sink every append of a payload of the right length fails. -/
theorem held_of_run {sink : Sink} {steps : List Step} {results : List (Except LogError Unit)}
    {w : Writer} (hrun : ({ sink } : Writer).run steps = (results, w)) :
    (∃ tail, Tail (firstTorn steps results) tail ∧
      w.sink.held = sink.held ++ (taken steps results).flatMap written ++ tail) ∧
    w.appended = (taken steps results).length ∧
    w.bytesWritten = ((taken steps results).map fun record => 24 + record.2.length).sum ∧
    (∀ entry payload, entry.payloadLength ≠ payload.length → w.append entry payload =
      (.error (.payloadLength entry.kind entry.payloadLength payload.length), w)) ∧
    ((firstTorn steps results).isSome → ∀ entry payload, entry.payloadLength = payload.length →
      ∃ reason next, w.append entry payload = (.error (.io reason), next) ∧
        next.sink.held = w.sink.held) ∧
    (w.barrier.2.sink.held = w.sink.held ∧ w.barrier.2.appended = w.appended ∧
      w.barrier.2.bytesWritten = w.bytesWritten) := by
  have hleaves := run_leaves { sink } steps
  rw [hrun] at hleaves
  obtain ⟨hheld, happended, hbytes, _⟩ := w.barrier_same
  refine ⟨hleaves.held, ?_, ?_, ?_, ?_, hheld, happended, hbytes⟩
  · exact hleaves.appended.trans (Nat.zero_add _)
  · exact hleaves.bytesWritten.trans (Nat.zero_add _)
  · intro entry payload hne
    exact append_of_ne hne w
  · intro htorn entry payload hdeclared
    exact append_of_full (hleaves.full htorn) hdeclared

/-- Room for two small entries and nine bytes more, seven bytes at a time; and it cannot be flushed. -/
def smallSink : Sink := { room := some 60, chunk := some 7, flushFailure := some .isDirectory }

def smallSteps : List Step :=
  [.append (.acquire .main .normal) [], .append (.data .main 3 0x1000) [1], .barrier,
    .append (.data .main 3 0x1000) [1, 2, 3], .append (.data .main 2 0x2000) [4, 5],
    .append (.acquire .main .normal) []]

theorem held_of_run_smallSink :
    let run := ({ sink := smallSink } : Writer).run smallSteps
    ({ sink := smallSink } : Writer).run smallSteps = (run.1, run.2) ∧
      taken smallSteps run.1 =
        [(.acquire .main .normal, []), (.data .main 3 0x1000, [1, 2, 3])] ∧
      firstTorn smallSteps run.1 = some (.data .main 2 0x2000, [4, 5]) ∧
      (∃ tail, tail <+: written (.data .main 2 0x2000, [4, 5]) ∧ tail.length = 9 ∧
        run.2.sink.held = (taken smallSteps run.1).flatMap written ++ tail) ∧
      run.2.appended = 2 ∧ run.2.bytesWritten = 51 := by
  intro run
  have htaken : taken smallSteps run.1 =
      [(.acquire .main .normal, []), (.data .main 3 0x1000, [1, 2, 3])] := by decide +kernel
  have htorn : firstTorn smallSteps run.1 = some (.data .main 2 0x2000, [4, 5]) := by decide +kernel
  have hlength : run.2.sink.held.length =
      ((taken smallSteps run.1).flatMap written).length + 9 := by decide +kernel
  have hrun : ({ sink := smallSink } : Writer).run smallSteps = (run.1, run.2) := rfl
  obtain ⟨⟨tail, htail, hheld⟩, happended, hbytes, _⟩ := held_of_run hrun
  rw [htorn] at htail
  have hheld : run.2.sink.held = (taken smallSteps run.1).flatMap written ++ tail := hheld
  refine ⟨hrun, htaken, htorn, ⟨tail, htail.1, ?_, hheld⟩, ?_, ?_⟩
  · rw [hheld, List.length_append] at hlength
    exact Nat.add_left_cancel hlength
  · rw [happended, htaken]
    rfl
  · rw [hbytes, htaken]
    rfl

end Writer

end Retrace.Log
