import Mathlib.Data.List.Forall2
import Retrace.Inspect.Dump
import Retrace.Proofs.Inspect.Counting
import Retrace.Proofs.Log.Appending

namespace Retrace.Log.Sink

structure TakesAll (s : Sink) : Prop where
  room : s.room = none
  flushes : s.flushFailure = none

theorem flushFailure_writeAll (s : Sink) (bytes : Bytes) :
    (s.writeAll bytes).2.flushFailure = s.flushFailure := by
  fun_induction writeAll s bytes with
  | case1 => rfl
  | case2 s bytes _ next hwrite => exact congrArg (fun answer => answer.2.flushFailure) hwrite.symm
  | case3 s bytes _ taken next hwrite ih =>
    have hnext : next.flushFailure = s.flushFailure :=
      congrArg (fun answer => answer.2.flushFailure) hwrite.symm
    rw [ih, hnext]

theorem TakesAll.writeAll {s : Sink} (h : s.TakesAll) (bytes : Bytes) :
    ∃ next, s.writeAll bytes = (.ok (), next) ∧ next.TakesAll ∧ next.held = s.held ++ bytes := by
  obtain ⟨next, hwrite, hroom⟩ := writeAll_of_unbounded h.room bytes
  have hflush := s.flushFailure_writeAll bytes
  rw [hwrite, h.flushes] at hflush
  exact ⟨next, hwrite, ⟨hroom, hflush⟩, held_writeAll hwrite⟩

end Retrace.Log.Sink

namespace Retrace.Inspect

open Log

namespace Report

/-- What a report tells of an entry: where it was found, what it says, how long its payload is, and the
first bytes of the payload, with two points if there are more. -/
structure Tells (limit : Nat) (r : Recorded) (report : Report) : Prop where
  index_eq : report.index = r.index
  offset_eq : report.offset = r.offset
  entry_eq : report.entry = r.entry
  payloadLength_eq : report.payloadLength = r.payload.length
  declared : report.payloadLength = r.entry.payloadLength
  preview_eq_none_iff : report.preview = none ↔ r.payload = []
  preview_eq : ∀ text, report.preview = some text →
    text = Bytes.hex (r.payload.take (min limit r.payload.length)) ++
      if r.payload.length ≤ limit then "" else ".."

theorem ofRecorded_tells (limit : Nat) {r : Recorded} (h : r.payload.length = r.entry.payloadLength) :
    Tells limit r (ofRecorded limit r) where
  index_eq := rfl
  offset_eq := rfl
  entry_eq := rfl
  payloadLength_eq := rfl
  declared := h
  preview_eq_none_iff := by
    rw [ofRecorded, hexPreview?]
    cases r.payload with
    | nil => exact iff_of_true rfl rfl
    | cons b payload => exact iff_of_false nofun nofun
  preview_eq := by
    intro text htext
    rw [ofRecorded, hexPreview?] at htext
    split at htext
    · cases htext
    · cases htext
      rw [← List.take_eq_take_min]
      by_cases hcut : limit < r.payload.length
      · rw [if_pos hcut, if_neg (Nat.not_le_of_lt hcut)]
      · rw [if_neg hcut, if_pos (Nat.le_of_not_lt hcut)]

theorem ofRecorded_tells_all (limit : Nat) {found : List Recorded}
    (h : ∀ r ∈ found, r.payload.length = r.entry.payloadLength) :
    List.Forall₂ (Tells limit) found (found.map (ofRecorded limit)) := by
  rw [List.forall₂_map_right_iff, List.forall₂_same]
  intro r hmem
  exact ofRecorded_tells limit (h r hmem)

def line (format : Format) (r : Report) : Bytes := Utf8.encodeText (r.render format) ++ newline

end Report

def ended (count : Nat) : Option LogError → Except DumpError Nat
  | none => .ok count
  | some e => .error (.log e)

section dump

variable {sink : Sink} (h : sink.TakesAll) (format : Format)
include h

theorem writeLine_of_takesAll (r : Report) :
    ∃ next, writeLine format sink r = (.ok (), next) ∧ next.TakesAll ∧
      next.held = sink.held ++ r.line format := by
  obtain ⟨middle, hrender, hmiddle, hheld⟩ := h.writeAll (Utf8.encodeText (r.render format))
  obtain ⟨next, hnewline, hnext, hheld'⟩ := hmiddle.writeAll newline
  refine ⟨next, ?_, hnext, ?_⟩
  · rw [writeLine, hrender]
    dsimp only
    rw [hnewline]
  · rw [hheld', hheld, List.append_assoc]
    rfl

theorem dumpItems_ending (limit : Nat) (ending : Option LogError) :
    ∃ last, dumpItems format limit sink (ending.map .error).toList =
      (ended 0 ending, last) ∧ last.held = sink.held := by
  cases ending with
  | some e => exact ⟨sink, rfl, rfl⟩
  | none =>
    have hflush : sink.flush = .ok () := by rw [Sink.flush, h.flushes]
    refine ⟨sink, ?_, rfl⟩
    change ((sink.flush.mapError DumpError.output).map fun _ => 0, sink) = _
    rw [hflush]
    rfl

/-- A dump writes a line for each entry, and counts them unless there is an error behind them. -/
theorem dumpItems_found (limit : Nat) (found : List Recorded) (ending : Option LogError) :
    ∃ last, dumpItems format limit sink (found.map .ok ++ (ending.map .error).toList) =
      (ended found.length ending, last) ∧
      last.held = sink.held ++ (found.map (Report.ofRecorded limit)).flatMap (Report.line format) := by
  induction found generalizing sink with
  | nil =>
    obtain ⟨last, hdump, hheld⟩ := dumpItems_ending h format limit ending
    exact ⟨last, hdump, hheld.trans (List.append_nil _).symm⟩
  | cons r found ih =>
    obtain ⟨next, hline, hnext, hheld⟩ := writeLine_of_takesAll h format (.ofRecorded limit r)
    obtain ⟨last, hdump, hlast⟩ := ih hnext
    refine ⟨last, ?_, ?_⟩
    · rw [List.map_cons, List.cons_append, dumpItems, hline]
      dsimp only
      rw [hdump]
      cases ending with
      | none => rfl
      | some e => rfl
    · rw [hlast, hheld, List.append_assoc]
      rfl

theorem dump_found (limit : Nat) {source : Source} {found : List Recorded} {ending : Option LogError}
    (hitems : Cursor.items source = found.map .ok ++ (ending.map .error).toList) :
    ∃ last, dump format limit source sink =
      (ended found.length ending, last) ∧
      last.held = sink.held ++ (found.map (Report.ofRecorded limit)).flatMap (Report.line format) := by
  rw [dump, hitems]
  exact dumpItems_found h format limit found ending

/-- The dump of a log and its statistics agree, whatever the log holds and however it is read. The dump
writes a line for each entry that is found, also in front of an error; it counts as many entries as the
statistics if these report no error, and fails with the error they report if there is one. -/
theorem dump_agrees (limit : Nat) (source : Source) :
    ∃ (found : List Recorded) (ending : Option LogError) (reports : List Report),
      Cursor.items source = found.map .ok ++ (ending.map .error).toList ∧
      List.Forall₂ (Report.Tells limit) found reports ∧
      (dump format limit source sink).2.held = sink.held ++ reports.flatMap (Report.line format) ∧
      reports.length = (Statistics.ofSource source).1.entries ∧
      (∀ n, (dump format limit source sink).1 = .ok n ↔
        (Statistics.ofSource source).1.error = none ∧ n = (Statistics.ofSource source).1.entries) ∧
      ∀ e, (dump format limit source sink).1 = .error e ↔
        ∃ reason, (Statistics.ofSource source).1.error = some reason ∧ e = .log reason := by
  obtain ⟨found, ending, hitems, _, hpayload⟩ := (Cursor.start source).walk_found
  obtain ⟨last, hdump, hheld⟩ := dump_found h format limit hitems
  rw [hdump, Statistics.ofSource_eq hitems]
  refine ⟨found, ending, found.map (Report.ofRecorded limit), hitems,
    Report.ofRecorded_tells_all limit hpayload, hheld, List.length_map .., ?_, ?_⟩
  · intro n
    cases ending with
    | none => simp [ended, eq_comm]
    | some e => simp [ended]
  · intro e
    cases ending with
    | none => simp [ended]
    | some reason => simp [ended, eq_comm]

end dump

/-- A log of two entries, the second with a payload of three bytes, and half a record behind them. -/
def tornLog : Bytes :=
  (Entry.release .main (.ofText "sched")).encode ++ ((Entry.data .main 3 16).encode ++ [1, 2, 3]) ++
    Bytes.zeros 12

theorem dump_agrees_tornLog :
    Sink.TakesAll { chunk := some 7 } ∧
      (dump .text 2 (.ofBytes tornLog) { chunk := some 7 }).1 = .error (.log (.truncated 24 12)) ∧
      ∃ reports : List Report, reports.length = 2 ∧
        (dump .text 2 (.ofBytes tornLog) { chunk := some 7 }).2.held =
          reports.flatMap (Report.line .text) := by
  have hsink : Sink.TakesAll { chunk := some 7 } := ⟨rfl, rfl⟩
  obtain ⟨found, ending, reports, _, _, hheld, hlength, _, herror⟩ :=
    dump_agrees hsink .text 2 (.ofBytes tornLog)
  have hstatistics : (Statistics.ofSource (.ofBytes tornLog)).1.entries = 2 ∧
      (Statistics.ofSource (.ofBytes tornLog)).1.error = some (.truncated 24 12) := by
    decide +kernel
  refine ⟨hsink, (herror _).mpr ⟨_, hstatistics.2, rfl⟩, reports, ?_, hheld⟩
  rw [hlength, hstatistics.1]

end Retrace.Inspect
