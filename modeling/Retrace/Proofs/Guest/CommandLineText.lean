import Retrace.Guest.CommandLine
import Retrace.Proofs.Text.Runs
import Retrace.Proofs.Text.Utf8Reading

namespace Retrace.Guest.CommandLine

/-- Blank, tab, line feed, vertical tab, form feed and carriage return. -/
def spaces : List Char := [' ', '\t', '\n', '\x0b', '\x0c', '\r']

theorem isSpace_iff {ch : Char} : isSpace ch = true ↔ ch ∈ spaces := by
  simp [isSpace, spaces, or_assoc]

/-- Spaces tell the pieces apart: there is none inside the program or an argument, and no argument is
empty. The program may be. -/
structure ToldApart (c : CommandLine) : Prop where
  exe : ∀ ch ∈ spaces, ch ∉ c.exe.toList
  args : ∀ arg ∈ c.args, arg ≠ "" ∧ ∀ ch ∈ spaces, ch ∉ arg.toList

def IsRun (cs : List Char) : Prop := ∀ ch ∈ cs, isInk ch = true

theorem isRun_iff {cs : List Char} : IsRun cs ↔ ∀ ch ∈ spaces, ch ∉ cs := by
  constructor
  · intro h ch hspace hmem
    have hink := h ch hmem
    rw [isInk, isSpace_iff.mpr hspace] at hink
    cases hink
  · intro h ch hmem
    rw [isInk, Bool.not_eq_true', ← Bool.not_eq_true, isSpace_iff]
    intro hspace
    exact h ch hspace hmem

theorem isRun_takeWhile (cs : List Char) : IsRun (cs.takeWhile isInk) := by
  intro ch hmem
  exact List.mem_takeWhile_imp hmem

theorem words_run {run rest : List Char} (hrun : IsRun run) (hrest : ∀ ch ∈ rest.head?, isInk ch = false)
    (hne : run ≠ []) : words (run ++ rest) = run :: words rest := by
  cases run with
  | nil => exact absurd rfl hne
  | cons ch run =>
    have hink : isInk ch = true := hrun ch List.mem_cons_self
    have hnot : ¬isSpace ch = true := by
      rw [isInk, Bool.not_eq_true'] at hink
      rw [hink]
      exact Bool.false_ne_true
    have hbehind : IsRun run := fun ch' hmem => hrun ch' (List.mem_cons_of_mem _ hmem)
    rw [List.cons_append, words, if_neg hnot, Run.takeWhile_append hbehind hrest,
      Run.dropWhile_append hbehind hrest]

theorem words_space {ch : Char} (h : isSpace ch = true) (cs : List Char) :
    words (ch :: cs) = words cs := by
  rw [words, if_pos h]

theorem isRun_of_mem_words {cs run : List Char} (h : run ∈ words cs) : run ≠ [] ∧ IsRun run := by
  fun_induction words cs with
  | case1 => cases h
  | case2 ch rest hspace ih => exact ih h
  | case3 ch rest hspace ih =>
    rcases List.mem_cons.mp h with rfl | hmem
    · refine ⟨List.cons_ne_nil _ _, ?_⟩
      intro ch' hch'
      rcases List.mem_cons.mp hch' with rfl | hch'
      · rw [isInk, Bool.eq_false_iff.mpr hspace, Bool.not_false]
      · exact isRun_takeWhile rest ch' hch'
    · exact ih hmem

def spaced (args : List (List Char)) : List Char := args.flatMap (' ' :: ·)

theorem head_spaced (args : List (List Char)) : ∀ ch ∈ (spaced args).head?, isInk ch = false := by
  cases args with
  | nil => nofun
  | cons arg args =>
    rintro ch ⟨⟩
    rfl

theorem words_spaced {args : List (List Char)} (h : ∀ arg ∈ args, arg ≠ [] ∧ IsRun arg) :
    words (spaced args) = args := by
  induction args with
  | nil => rw [spaced, List.flatMap_nil, words]
  | cons arg args ih =>
    obtain ⟨hne, hrun⟩ := h arg List.mem_cons_self
    have hbehind : ∀ arg' ∈ args, arg' ≠ [] ∧ IsRun arg' :=
      fun arg' hmem => h arg' (List.mem_cons_of_mem _ hmem)
    have hspaced : spaced (arg :: args) = ' ' :: (arg ++ spaced args) := rfl
    rw [hspaced, words_space rfl, words_run hrun (head_spaced args) hne, ih hbehind]

theorem toList_joined (c : CommandLine) :
    c.joined.toList = c.exe.toList ++ spaced (c.args.map String.toList) := by
  obtain ⟨exe, args⟩ := c
  rw [joined]
  induction args generalizing exe with
  | nil => exact (List.append_nil _).symm
  | cons arg args ih =>
    have hspaced : spaced ((arg :: args).map String.toList) =
        [' '] ++ (arg.toList ++ spaced (args.map String.toList)) := rfl
    have hblank : " ".toList = [' '] := rfl
    rw [List.foldl_cons, ih, String.toList_append, String.toList_append, hblank, hspaced]
    simp only [List.append_assoc]

theorem toldApart_iff {c : CommandLine} :
    c.ToldApart ↔ IsRun c.exe.toList ∧
      ∀ arg ∈ c.args.map String.toList, arg ≠ [] ∧ IsRun arg := by
  constructor
  · rintro ⟨hexe, hargs⟩
    refine ⟨isRun_iff.mpr hexe, ?_⟩
    intro run hmem
    obtain ⟨arg, harg, rfl⟩ := List.mem_map.mp hmem
    obtain ⟨hne, hspaces⟩ := hargs arg harg
    exact ⟨fun hnil => hne (String.toList_eq_nil_iff.mp hnil), isRun_iff.mpr hspaces⟩
  · rintro ⟨hexe, hargs⟩
    refine ⟨isRun_iff.mp hexe, ?_⟩
    intro arg harg
    obtain ⟨hne, hrun⟩ := hargs _ (List.mem_map_of_mem harg)
    exact ⟨fun hnil => hne (String.toList_eq_nil_iff.mpr hnil), isRun_iff.mp hrun⟩

theorem toldApart_parse (bytes : Bytes) : (parse bytes).ToldApart := by
  rw [toldApart_iff, parse, ofChars]
  dsimp only
  rw [String.toList_ofList, List.map_map]
  refine ⟨isRun_takeWhile _, ?_⟩
  intro run hmem
  obtain ⟨word, hword, rfl⟩ := List.mem_map.mp hmem
  rw [Function.comp_apply, String.toList_ofList]
  exact isRun_of_mem_words hword

theorem parse_joined {c : CommandLine} (h : c.ToldApart) :
    parse (Utf8.encodeText c.joined) = c := by
  obtain ⟨hexe, hargs⟩ := toldApart_iff.mp h
  have hhead := head_spaced (c.args.map String.toList)
  rw [parse, Utf8.encodeText, Utf8.decode_encode, toList_joined, ofChars, Run.takeWhile_append hexe hhead,
    Run.dropWhile_append hexe hhead, words_spaced hargs, List.map_map]
  obtain ⟨exe, args⟩ := c
  simp [Function.comp_def]

/-- Splitting undoes joining just for the command lines whose pieces spaces tell apart. It gives no
others, whatever the bytes, so what it gave is given again when it was joined. -/
theorem parse_undoes_joined :
    (∀ c : CommandLine, parse (Utf8.encodeText c.joined) = c ↔ c.ToldApart) ∧
    ∀ bytes, (parse bytes).ToldApart ∧
      parse (Utf8.encodeText (parse bytes).joined) = parse bytes := by
  constructor
  · intro c
    constructor
    · intro h
      rw [← h]
      exact toldApart_parse _
    · exact parse_joined
  · intro bytes
    exact ⟨toldApart_parse bytes, parse_joined (toldApart_parse bytes)⟩

end Retrace.Guest.CommandLine
