import Retrace.Proofs.Inspect.Dumping
import Retrace.Proofs.Text.Utf8Reading

namespace Retrace

section digits

open Utf8 (ofNat_ne_lineFeed)

theorem Numeral.newline_not_mem_decimal (n : Nat) : '\n' ∉ digits 10 n :=
  not_mem_digits (by decide) (by decide) n

theorem Numeral.newline_not_mem_hex (n : Nat) : '\n' ∉ digits 16 n :=
  not_mem_digits (by decide) (by decide) n

theorem Bytes.hexDigit_ne_newline (d : Nat) : hexDigit d ≠ '\n' := by
  rw [hexDigit]
  split
  · exact ofNat_ne_lineFeed (by omega)
  · exact ofNat_ne_lineFeed (by omega)

end digits

section text

@[simp] theorem Numeral.count_newline_decimal (n : Nat) : (decimal n).toList.count '\n' = 0 := by
  rw [decimal, String.toList_ofList]
  exact List.count_eq_zero.mpr (newline_not_mem_decimal n)

@[simp] theorem Numeral.count_newline_hex (n : Nat) : (hex n).toList.count '\n' = 0 := by
  rw [hex, String.toList_ofList]
  exact List.count_eq_zero.mpr (newline_not_mem_hex n)

@[simp] theorem Numeral.count_newline_paddedHex (width n : Nat) :
    (paddedHex width n).toList.count '\n' = 0 := by
  rw [paddedHex, String.toList_ofList, List.leftpad, List.count_append,
    List.count_eq_zero.mpr (newline_not_mem_hex n), List.count_replicate]
  rfl

@[simp] theorem Bytes.count_newline_hex (bytes : Bytes) : (hex bytes).toList.count '\n' = 0 := by
  rw [hex, String.toList_ofList]
  apply List.count_eq_zero.mpr
  intro hmem
  obtain ⟨b, _, hdigit⟩ := List.mem_flatMap.mp hmem
  rcases List.mem_cons.mp hdigit with hhigh | hlow
  · exact hexDigit_ne_newline _ hhigh.symm
  · exact hexDigit_ne_newline _ (List.mem_singleton.mp hlow).symm

@[simp] theorem Inspect.count_newline_alignRight (width : Nat) (text : String) :
    (alignRight width text).toList.count '\n' = text.toList.count '\n' := by
  rw [alignRight, String.toList_ofList, List.leftpad, List.count_append, List.count_replicate]
  exact Nat.zero_add _

@[simp] theorem Inspect.count_newline_alignLeft (width : Nat) (text : String) :
    (alignLeft width text).toList.count '\n' = text.toList.count '\n' := by
  rw [alignLeft, String.toList_ofList, List.rightpad, List.count_append, List.count_replicate]
  rfl

end text

namespace Log

/-- How often an entry breaks the line of text that shows it: once for each line feed in front of the
first zero of a release tag. -/
def Entry.lineBreaks (e : Entry) : Nat :=
  match e.body with
  | .release tag => (tag.bytes.takeWhile (· != 0)).count 10
  | _ => 0

@[simp] theorem Kind.count_newline_name (kind : Kind) : kind.name.toList.count '\n' = 0 := by
  cases kind <;> decide

@[simp] theorem CallerClass.count_newline_name (c : CallerClass) : c.name.toList.count '\n' = 0 := by
  cases c <;> decide

@[simp] theorem ReleaseTag.count_newline_text (tag : ReleaseTag) :
    tag.text.toList.count '\n' = (tag.bytes.takeWhile (· != 0)).count 10 := by
  rw [text, Utf8.decodeText, String.toList_ofList, Utf8.count_decode]

theorem Entry.lineBreaks_eq_zero_iff {e : Entry} :
    e.lineBreaks = 0 ↔ ∀ tag, e.body = .release tag → 10 ∉ tag.bytes.takeWhile (· != 0) := by
  obtain ⟨thread, body⟩ := e
  cases body with
  | release tag =>
    rw [lineBreaks, List.count_eq_zero]
    constructor
    · rintro h _ ⟨⟩
      exact h
    · intro h
      exact h tag rfl
  | _ => exact iff_of_true rfl nofun

theorem Entry.count_newline_text (e : Entry) : e.text.toList.count '\n' = e.lineBreaks := by
  obtain ⟨thread, body⟩ := e
  cases body with
  | dispatchCounter before counter =>
    cases before <;> simp [text, ThreadId.text, Body.text, lineBreaks]
  | _ => simp [text, ThreadId.text, KernelTid.text, Body.text, Body.hexWord, lineBreaks]

end Log

namespace Json

theorem newline_not_mem_escape (c : Char) : '\n' ∉ escape c := by
  fun_cases escape c with
  | case8 => simp [(Bytes.hexDigit_ne_newline _).symm]
  | case9 _ _ _ _ hne =>
    rw [List.mem_singleton]
    exact fun h => hne h.symm
  | _ => decide

theorem newline_not_mem_literal (s : String) : '\n' ∉ literal (some s) := by
  have hbody : '\n' ∉ s.toList.flatMap escape := by
    intro hmem
    obtain ⟨c, _, hescape⟩ := List.mem_flatMap.mp hmem
    exact newline_not_mem_escape c hescape
  simp [literal, literalBody, hbody]

@[simp] theorem newline_not_mem_text (s : String) : '\n' ∉ (text s).compact := newline_not_mem_literal s

@[simp] theorem newline_not_mem_nat (n : Nat) : '\n' ∉ (nat n).compact := by
  simp [nat, compact, Number.ofNat, Number.written, Numeral.newline_not_mem_decimal]

@[simp] theorem newline_not_mem_bool (b : Bool) : '\n' ∉ (bool b).compact := by
  cases b <;> decide

theorem newline_not_mem_compactMembers {members : List (String × Json)}
    (h : ∀ member ∈ members, '\n' ∉ member.2.compact) :
    '\n' ∉ compactMembers (members.map fun member => (some member.1, member.2)) := by
  induction members with
  | nil => decide
  | cons member members ih =>
    obtain ⟨hvalue, hbehind⟩ := List.forall_mem_cons.mp h
    have hmembers := ih hbehind
    simp [compactMembers, newline_not_mem_literal, hvalue, hmembers]

theorem newline_not_mem_record {members : List (String × Json)}
    (h : ∀ member ∈ members, '\n' ∉ member.2.compact) : '\n' ∉ (record members).compact := by
  cases members with
  | nil => decide
  | cons member members =>
    obtain ⟨hvalue, hbehind⟩ := List.forall_mem_cons.mp h
    have hmembers := newline_not_mem_compactMembers hbehind
    simp [record, compact, newline_not_mem_literal, hvalue, hmembers]

end Json

namespace Inspect

open Log

namespace Report

theorem count_newline_previewText {limit : Nat} {r : Recorded} {report : Report}
    (h : Tells limit r report) : report.previewText.toList.count '\n' = 0 := by
  rw [previewText]
  split
  · rename_i preview hpreview
    rw [h.preview_eq preview hpreview]
    split <;> simp
  · rfl

theorem count_newline_text {limit : Nat} {r : Recorded} {report : Report} (h : Tells limit r report) :
    report.text.toList.count '\n' = report.entry.lineBreaks := by
  simp [text, count_newline_previewText h, Entry.count_newline_text]

theorem newline_not_mem_members (e : Entry) : ∀ member ∈ e.members, '\n' ∉ member.2.compact := by
  obtain ⟨thread, body⟩ := e
  cases body <;>
    simp [Entry.members, Body.taggedMembers, Body.members, ThreadId.toJson, KernelTid.toJson,
      CallerClass.toJson, ReleaseTag.toJson]

theorem newline_not_mem_json (report : Report) : '\n' ∉ report.toJson.compact := by
  obtain ⟨index, offset, entry, payloadLength, preview⟩ := report
  apply Json.newline_not_mem_record
  rw [List.forall_mem_append, List.forall_mem_append, List.forall_mem_append]
  refine ⟨⟨⟨?_, newline_not_mem_members entry⟩, ?_⟩, ?_⟩
  · simp
  · simp
  · cases preview with
    | none => nofun
    | some preview => simp

end Report

def lineBreaks (format : Format) (e : Entry) : Nat :=
  match format with
  | .text => e.lineBreaks
  | .json => 0

theorem lineBreaks_eq_zero_iff {format : Format} {entries : List Entry} :
    (entries.map (lineBreaks format)).sum = 0 ↔
      format = .json ∨ ∀ e ∈ entries, ∀ tag, e.body = .release tag →
        10 ∉ tag.bytes.takeWhile (· != 0) := by
  rw [List.sum_eq_zero_iff_forall_eq_nat, List.forall_mem_map]
  cases format with
  | json => exact iff_of_true (fun _ _ => rfl) (.inl rfl)
  | text =>
    constructor
    · intro h
      apply Or.inr
      intro e hmem
      exact Entry.lineBreaks_eq_zero_iff.mp (h e hmem)
    · rintro (⟨⟨⟩⟩ | h)
      intro e hmem
      exact Entry.lineBreaks_eq_zero_iff.mpr (h e hmem)

section lines

variable {limit : Nat} (format : Format)

theorem count_newline_render {r : Recorded} {report : Report} (h : Report.Tells limit r report) :
    (report.render format).toList.count '\n' = lineBreaks format report.entry := by
  cases format with
  | text => exact Report.count_newline_text h
  | json =>
    rw [Report.render, Json.render, String.toList_ofList]
    exact List.count_eq_zero.mpr report.newline_not_mem_json

theorem count_encodeText_render {r : Recorded} {report : Report} (h : Report.Tells limit r report) :
    (Utf8.encodeText (report.render format)).count 10 = lineBreaks format report.entry := by
  rw [Utf8.encodeText, Utf8.count_encode, count_newline_render format h]

/-- The lines that are written have one line feed each, and those with which entries break them. -/
theorem count_lines {found : List Recorded} {reports : List Report}
    (h : List.Forall₂ (Report.Tells limit) found reports) :
    (reports.flatMap (Report.line format)).count 10 =
      found.length + ((found.map (·.entry)).map (lineBreaks format)).sum := by
  induction h with
  | nil => rfl
  | @cons r report found reports htells _ ih =>
    have hline : (report.line format).count 10 = lineBreaks format r.entry + 1 := by
      rw [Report.line, List.count_append, count_encodeText_render format htells, htells.entry_eq]
      rfl
    rw [List.flatMap_cons, List.count_append, hline, ih, List.map_cons, List.map_cons, List.sum_cons,
      List.length_cons]
    omega

theorem splitOn_lines {lines : List Bytes} (h : ∀ line ∈ lines, 10 ∉ line) :
    (lines.flatMap (· ++ newline)).splitOn 10 = lines ++ [[]] := by
  rw [List.splitOn_eq_splitOnP]
  induction lines with
  | nil => rfl
  | cons line lines ih =>
    have hline : ∀ b ∈ line, (b == 10) = false := by
      intro b hb
      rw [beq_eq_false_iff_ne]
      rintro rfl
      exact h line List.mem_cons_self hb
    have hlines : ∀ other ∈ lines, 10 ∉ other := fun other hmem => h other (List.mem_cons_of_mem _ hmem)
    rw [List.flatMap_cons, newline, List.append_assoc, List.singleton_append,
      List.splitOnP_append_cons_of_forall_mem hline 10 rfl, List.cons_append]
    exact congrArg (line :: ·) (ih hlines)

theorem unbroken_of_count {found : List Recorded} {reports : List Report}
    (h : List.Forall₂ (Report.Tells limit) found reports)
    (hcount : (reports.flatMap (Report.line format)).count 10 = found.length) :
    ∀ line ∈ reports.map (fun r => Utf8.encodeText (r.render format)), 10 ∉ line := by
  rw [count_lines format h, Nat.add_eq_left, List.sum_eq_zero_iff_forall_eq_nat, List.map_map,
    List.forall_mem_map] at hcount
  induction h with
  | nil => nofun
  | @cons r report found reports htells _ ih =>
    obtain ⟨hfirst, hbehind⟩ := List.forall_mem_cons.mp hcount
    rw [List.map_cons, List.forall_mem_cons]
    constructor
    · rw [← List.count_eq_zero, count_encodeText_render format htells, htells.entry_eq]
      exact hfirst
    · exact ih hbehind

/-- The dump of a log has a line for each of its entries: always as JSON, and as text unless there is a
line feed in a release tag, in front of its first zero. Each of these is one more, and there is no other.
Where there is none the k-th line shows the k-th entry. -/
theorem one_line_unless_tag_breaks {sink : Sink} (h : sink.TakesAll) (limit : Nat)
    (passages : List Passage) :
    ∃ (reports : List Report) (written : Bytes),
      List.Forall₂ (Report.Tells limit) (layOut 0 0 (passages.map Passage.logged)) reports ∧
      (dump format limit (.ofBytes (Passage.join passages)) sink).1 = .ok passages.length ∧
      (dump format limit (.ofBytes (Passage.join passages)) sink).2.held = sink.held ++ written ∧
      written.count 10 =
        passages.length + ((passages.map (·.entry)).map (lineBreaks format)).sum ∧
      (written.count 10 = passages.length ↔
        format = .json ∨ ∀ e ∈ passages.map (·.entry), ∀ tag, e.body = .release tag →
          10 ∉ tag.bytes.takeWhile (· != 0)) ∧
      (written.count 10 = passages.length →
        written.splitOn 10 = reports.map (fun r => Utf8.encodeText (r.render format)) ++ [[]]) := by
  have hpayload : ∀ r ∈ layOut 0 0 (passages.map Passage.logged),
      r.payload.length = r.entry.payloadLength := by
    intro r hmem
    have hstands : r.StandsIn ([] ++ (Passage.join passages ++ [])) := standsIn_of_mem_layOut hmem
    exact hstands.length_payload
  have hitems : Cursor.items (.ofBytes (Passage.join passages)) =
      (layOut 0 0 (passages.map Passage.logged)).map .ok ++ ((none : Option LogError).map .error).toList := by
    rw [Cursor.items_join]
    exact (List.append_nil _).symm
  obtain ⟨last, hdump, hheld⟩ := dump_found h format limit hitems
  have htells := Report.ofRecorded_tells_all limit hpayload
  have hcount := count_lines format htells
  rw [length_layOut, List.length_map, Passage.map_entry_layOut] at hcount
  rw [hdump, length_layOut, List.length_map]
  refine ⟨_, _, htells, rfl, hheld, hcount, ?_, ?_⟩
  · rw [hcount, ← lineBreaks_eq_zero_iff]
    omega
  · intro hone
    have hunbroken := unbroken_of_count format htells (by rw [hone, length_layOut, List.length_map])
    rw [← splitOn_lines hunbroken, List.flatMap_map _ (· ++ newline)]
    rfl

end lines

def quietPassages : List Passage :=
  [.ofEntry (.release .main (.ofText "a\x00\n")) [] rfl, .ofEntry (.data .main 3 16) [1, 2, 3] rfl]

theorem one_line_unless_tag_breaks_quiet :
    Sink.TakesAll {} ∧ ∃ written,
      (dump .text 2 (.ofBytes (Passage.join quietPassages)) {}).2.held = written ∧
      written.count 10 = 2 ∧ (written.splitOn 10).length = 3 := by
  have hsink : Sink.TakesAll {} := ⟨rfl, rfl⟩
  obtain ⟨reports, written, htells, _, hheld, hcount, _, hlines⟩ :=
    one_line_unless_tag_breaks .text hsink 2 quietPassages
  have hquiet : ((quietPassages.map (·.entry)).map (lineBreaks .text)).sum = 0 := by decide +kernel
  rw [hquiet] at hcount
  refine ⟨hsink, written, hheld, hcount, ?_⟩
  rw [hlines hcount, List.length_append, List.length_map, ← htells.length_eq]
  rfl

/-- A log of one entry whose dump as text is two lines: the tag of a release has a line feed. -/
theorem tag_breaks_line :
    let log := Source.ofBytes (Entry.release .main (.ofText "a\nb")).encode
    (Cursor.items log).length = 1 ∧ (dump .text 16 log {}).1 = .ok 1 ∧
      (dump .text 16 log {}).2.held.count 10 = 2 := by
  decide +kernel

end Inspect

end Retrace
