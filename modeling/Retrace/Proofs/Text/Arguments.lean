import Retrace.Text.Argument
import Retrace.Text.Blank
import Retrace.Proofs.Text.Runs

namespace Retrace

namespace Blank

variable {front inner back : List Char} {text trimmed : String}

theorem trimList_append (hfront : ∀ c ∈ front, isBlank c = true) (hback : ∀ c ∈ back, isBlank c = true)
    (hstart : ∀ c ∈ inner.head?, isBlank c = false) (hend : ∀ c ∈ inner.getLast?, isBlank c = false) :
    trimList (front ++ inner ++ back) = inner := by
  rw [trimList, List.append_assoc, List.dropWhile_append_of_pos hfront]
  cases inner with
  | nil => rw [List.nil_append, List.dropWhile_eq_nil_iff.mpr hback]; rfl
  | cons first rest =>
    have hfirst : ¬ isBlank first = true := Bool.eq_false_iff.mp (hstart first rfl)
    have hback' : ∀ c ∈ back.reverse, isBlank c = true := fun c hc => hback c (List.mem_reverse.mp hc)
    have hend' : ∀ c ∈ (first :: rest).reverse.head?, isBlank c = false := by
      simpa only [List.head?_reverse] using hend
    rw [List.cons_append, List.dropWhile_cons_of_neg hfirst, ← List.cons_append, List.reverse_append,
      Run.dropWhile_append hback' hend', List.reverse_reverse]

/-- A text between blanks, with none at its own two ends. -/
structure Trims (text trimmed : String) : Prop where
  between : ∃ front back : List Char, text.toList = front ++ trimmed.toList ++ back ∧
    (∀ c ∈ front, isBlank c = true) ∧ ∀ c ∈ back, isBlank c = true
  starts : ∀ c ∈ trimmed.toList.head?, isBlank c = false
  ends : ∀ c ∈ trimmed.toList.getLast?, isBlank c = false

theorem head?_dropWhile (cs : List Char) : ∀ c ∈ (cs.dropWhile isBlank).head?, isBlank c = false := by
  intro c hc
  have h := List.head?_dropWhile_not isBlank cs
  rw [Option.mem_def.mp hc] at h
  exact h

theorem trims_trim (text : String) : Trims text (trim text) := by
  let cs := text.toList.dropWhile isBlank
  let trimmed := (cs.reverse.dropWhile isBlank).reverse
  have hcs : trimmed ++ (cs.reverse.takeWhile isBlank).reverse = cs := by
    rw [← List.reverse_append, List.takeWhile_append_dropWhile, List.reverse_reverse]
  have hlist : (trim text).toList = trimmed := String.toList_ofList
  constructor
  · refine ⟨text.toList.takeWhile isBlank, (cs.reverse.takeWhile isBlank).reverse, ?_, ?_, ?_⟩
    · rw [hlist, List.append_assoc, hcs, List.takeWhile_append_dropWhile]
    · exact fun c hc => List.mem_takeWhile_imp hc
    · exact fun c hc => List.mem_takeWhile_imp (List.mem_reverse.mp hc)
  · intro c hc
    rw [hlist] at hc
    -- Where nothing is left there is no first character; else it is the first one behind the blanks.
    apply head?_dropWhile text.toList c
    change c ∈ cs.head?
    rw [← hcs, List.head?_append, Option.mem_def.mp hc]
    rfl
  · intro c hc
    rw [hlist, List.getLast?_reverse] at hc
    exact head?_dropWhile _ c hc

/-- Trimming leaves the one text between blanks that has none at its own two ends. -/
theorem trims_iff : Trims text trimmed ↔ trim text = trimmed := by
  constructor
  · rintro ⟨⟨front, back, htext, hfront, hback⟩, hstart, hend⟩
    rw [trim, htext, trimList_append hfront hback hstart hend, String.ofList_toList]
  · rintro rfl
    exact trims_trim text

end Blank

namespace Argument

theorem behind?_eq_some_iff {front arg value : String} :
    behind? front arg = some value ↔ arg = front ++ value := by
  rw [behind?, Option.map_eq_some_iff]
  constructor
  · rintro ⟨rest, hrest, rfl⟩
    rw [← String.toList_inj, String.toList_append, String.toList_ofList]
    exact after?_eq_some_iff.mp hrest
  · rintro rfl
    exact ⟨value.toList, after?_eq_some_iff.mpr String.toList_append, String.ofList_toList⟩

theorem behind?_eq_none_iff {front arg : String} :
    behind? front arg = none ↔ ∀ value, arg ≠ front ++ value := by
  rw [Option.eq_none_iff_forall_ne_some]
  exact forall_congr' fun value => not_congr behind?_eq_some_iff

theorem startsWithDash_iff {arg : String} : startsWithDash arg = true ↔ ∃ rest, arg = "-" ++ rest := by
  have hdash (rest : String) : ("-" ++ rest).toList = '-' :: rest.toList := String.toList_append
  rw [startsWithDash, beq_iff_eq]
  constructor
  · intro h
    obtain ⟨rest, hrest⟩ := List.head?_eq_some_iff.mp h
    refine ⟨String.ofList rest, ?_⟩
    rw [← String.toList_inj, hdash, String.toList_ofList, hrest]
  · rintro ⟨rest, rfl⟩
    rw [hdash]
    rfl

end Argument

end Retrace
