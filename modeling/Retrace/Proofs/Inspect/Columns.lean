import Retrace.Proofs.Inspect.Dumping
import Retrace.Proofs.Text.Runs

namespace Retrace.Inspect

open Log Numeral

/-- The two numbers that a line of text begins with, and what is behind their columns. -/
def columns (line : List Char) : Nat × Nat × List Char :=
  let front := line.dropWhile (· == ' ')
  let middle := (front.dropWhile Char.isDigit).drop 2
  (value (front.takeWhile Char.isDigit), value (middle.takeWhile Char.isDigit),
    (middle.dropWhile Char.isDigit).dropWhile (· == ' '))

/-- The length in brackets, and what is behind it. -/
def bracketed? (text : List Char) : Option (Nat × List Char) :=
  match text.dropWhile (· != '[') with
  | [] => none
  | _ :: rest => some (value (rest.takeWhile Char.isDigit), (rest.dropWhile Char.isDigit).drop 3)

section number

variable {rest : List Char} (hrest : ∀ c ∈ rest.head?, c.isDigit = false) (n : Nat)
include hrest

theorem takeWhile_digits : (digits 10 n ++ rest).takeWhile Char.isDigit = digits 10 n :=
  Run.takeWhile_append (isDigit_of_mem_digits n) hrest

theorem dropWhile_digits : (digits 10 n ++ rest).dropWhile Char.isDigit = rest :=
  Run.dropWhile_append (isDigit_of_mem_digits n) hrest

end number

theorem dropWhile_blanks {rest : List Char} (hrest : ∀ c ∈ rest.head?, c ≠ ' ') (count : Nat) :
    (List.replicate count ' ' ++ rest).dropWhile (· == ' ') = rest := by
  apply Run.dropWhile_append
  · intro c hc
    rw [List.eq_of_mem_replicate hc]
    rfl
  · exact fun c hc => beq_false_of_ne (hrest c hc)

theorem head_digits_append (n : Nat) (rest : List Char) :
    ∀ c ∈ (digits 10 n ++ rest).head?, c ≠ ' ' := by
  obtain ⟨first, behind, hcons⟩ := digits_eq_cons 10 n
  have hdigit := isDigit_of_mem_digits n first (by rw [hcons]; exact List.mem_cons_self)
  rw [hcons]
  rintro c ⟨⟩ rfl
  cases hdigit

namespace Report

theorem toList_text (r : Report) : ∃ left right, r.text.toList =
    List.replicate left ' ' ++ (digits 10 r.index ++ ' ' :: '@' :: (digits 10 r.offset ++
      (List.replicate (right + 1) ' ' ++ (r.entry.text ++ r.previewText).toList))) := by
  refine ⟨6 - (digits 10 r.index).length, 8 - (digits 10 r.offset).length, ?_⟩
  simp [text, alignRight, alignLeft, decimal, List.leftpad, List.rightpad, List.replicate_succ']

theorem head_entryText (e : Entry) (rest : String) : ∀ c ∈ (e.text ++ rest).toList.head?, c ≠ ' ' := by
  simp [Entry.text, ThreadId.text]

theorem columns_text (r : Report) :
    columns r.text.toList = (r.index, r.offset, (r.entry.text ++ r.previewText).toList) := by
  obtain ⟨left, right, htext⟩ := r.toList_text
  have hblank : ∀ c ∈ (List.replicate (right + 1) ' ' ++ (r.entry.text ++ r.previewText).toList).head?,
      c.isDigit = false := by
    rintro c ⟨⟩
    rfl
  rw [columns, htext, dropWhile_blanks (head_digits_append r.index _),
    takeWhile_digits (by rintro c ⟨⟩; rfl), dropWhile_digits (by rintro c ⟨⟩; rfl), value_digits]
  simp only [List.drop_succ_cons, List.drop_zero]
  rw [takeWhile_digits hblank, dropWhile_digits hblank, value_digits,
    dropWhile_blanks (head_entryText r.entry _)]

end Report

section bracket

theorem bracket_not_mem_decimal (n : Nat) : '[' ∉ (decimal n).toList := by
  rw [decimal, String.toList_ofList]
  exact not_mem_digits (by decide) (by decide) n

theorem bracket_not_mem_hex (n : Nat) : '[' ∉ (hex n).toList := by
  rw [hex, String.toList_ofList]
  exact not_mem_digits (by decide) (by decide) n

theorem bracket_not_mem_name (kind : Kind) : '[' ∉ kind.name.toList := by
  cases kind <;> decide

theorem bracket_not_mem_text {e : Entry} (h : e.kind.hasPayload = true) : '[' ∉ e.text.toList := by
  obtain ⟨thread, body⟩ := e
  have hfront : '[' ∉ (thread.text ++ " " ++ body.kind.name).toList := by
    simp [ThreadId.text, bracket_not_mem_decimal, bracket_not_mem_name]
  have hfields : '[' ∉ body.text.toList := by
    cases body with
    | clientCmdline len => simp [Body.text, bracket_not_mem_decimal]
    | data len addr => simp [Body.text, Body.hexWord, bracket_not_mem_decimal, bracket_not_mem_hex]
    | snapshot len => simp [Body.text, bracket_not_mem_decimal]
    | _ => cases h
  rw [Entry.text, String.toList_append, List.mem_append, not_or]
  exact ⟨hfront, hfields⟩

theorem bracketed?_append {front : List Char} (h : '[' ∉ front) (n : Nat) (preview : String) :
    bracketed? (front ++ (" [" ++ decimal n ++ "B] " ++ preview).toList) = some (n, preview.toList) := by
  have hfront : ∀ c ∈ front ++ [' '], (c != '[') = true := by
    intro c hc
    rcases List.mem_append.mp hc with hc | hc
    · exact bne_iff_ne.mpr fun heq => h (heq ▸ hc)
    · rw [List.mem_singleton.mp hc]
      rfl
  have hsplit : front ++ (" [" ++ decimal n ++ "B] " ++ preview).toList =
      (front ++ [' ']) ++ '[' :: (digits 10 n ++ ('B' :: ']' :: ' ' :: preview.toList)) := by
    simp [decimal]
  rw [bracketed?, hsplit, Run.dropWhile_append hfront (by rintro c ⟨⟩; rfl)]
  dsimp only
  rw [takeWhile_digits (by rintro c ⟨⟩; rfl), dropWhile_digits (by rintro c ⟨⟩; rfl), value_digits]
  rfl

end bracket

namespace Report

theorem hasPayload_of_preview {limit : Nat} {r : Recorded} {report : Report} (h : Tells limit r report)
    (hpayload : r.payload ≠ []) : report.entry.kind.hasPayload = true := by
  rw [h.entry_eq]
  by_contra hkind
  have hlength : r.entry.payloadLength = 0 :=
    Body.payloadLength_of_not_hasPayload (Bool.eq_false_iff.mpr hkind)
  rw [← h.declared, h.payloadLength_eq] at hlength
  exact hpayload (List.eq_nil_of_length_eq_zero hlength)

/-- The line of text that shows an entry: in its columns where the entry was found, then the entry. If there
is a payload, its length follows in brackets, and its first bytes behind them. -/
theorem Tells.text_shows {limit : Nat} {r : Recorded} {report : Report} (h : Tells limit r report) :
    ∃ behind, columns report.text.toList = (r.index, r.offset, r.entry.text.toList ++ behind) ∧
      (r.payload = [] → behind = []) ∧
      (r.payload ≠ [] → bracketed? (r.entry.text.toList ++ behind) = some (r.payload.length,
        (Bytes.hex (r.payload.take (min limit r.payload.length)) ++
          if r.payload.length ≤ limit then "" else "..").toList)) := by
  refine ⟨report.previewText.toList, ?_, ?_, ?_⟩
  · rw [report.columns_text, h.index_eq, h.offset_eq, h.entry_eq, String.toList_append]
  · intro hempty
    rw [previewText, h.preview_eq_none_iff.mpr hempty]
    rfl
  · intro hpayload
    obtain ⟨preview, hpreview⟩ := Option.ne_none_iff_exists'.mp (mt h.preview_eq_none_iff.mp hpayload)
    have hbracket := bracket_not_mem_text (hasPayload_of_preview h hpayload)
    rw [h.entry_eq] at hbracket
    rw [previewText, hpreview]
    dsimp only
    rw [bracketed?_append hbracket, h.payloadLength_eq, h.preview_eq preview hpreview]

end Report

end Retrace.Inspect
