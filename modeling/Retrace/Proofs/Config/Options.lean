import Mathlib.Data.List.Infix
import Retrace.Config
import Retrace.Proofs.Text.Arguments

namespace Retrace

namespace Mode

/-- The number that stands for a mode, with blanks around it or not. -/
inductive Numbered : String → Mode → Prop
  | record {value : String} (h : Blank.Trims value "1") : Numbered value .record
  | replay {value : String} (h : Blank.Trims value "2") : Numbered value .replay

theorem ofOption_of_numbered {value : String} {mode : Mode} (h : Numbered value mode) :
    ofOption value = .ok mode := by
  cases h with
  | record h => rw [ofOption, Blank.trims_iff.mp h]; rfl
  | replay h => rw [ofOption, Blank.trims_iff.mp h]; rfl

theorem numbered_or_trims (value : String) : (∃ mode, Numbered value mode) ∨
    ∃ trimmed, Blank.Trims value trimmed ∧ trimmed ≠ "1" ∧ trimmed ≠ "2" := by
  have htrim := Blank.trims_trim value
  by_cases hone : Blank.trim value = "1"
  · exact .inl ⟨.record, .record (hone ▸ htrim)⟩
  by_cases htwo : Blank.trim value = "2"
  · exact .inl ⟨.replay, .replay (htwo ▸ htrim)⟩
  exact .inr ⟨_, htrim, hone, htwo⟩

theorem ofOption_of_trims {value trimmed : String} (h : Blank.Trims value trimmed) (hone : trimmed ≠ "1")
    (htwo : trimmed ≠ "2") : ofOption value = .error (.invalidMode trimmed) := by
  rw [ofOption, Blank.trims_iff.mp h]
  exact (if_neg hone).trans (if_neg htwo)

end Mode

namespace Config

def modeFront : String := "--record-replay="

def logFront : String := "--log-file-rr="

/-- An argument that is refused, with what is wrong about it. -/
inductive Faulty : String → SetupError → Prop
  | mode {value trimmed : String} (h : Blank.Trims value trimmed) (hone : trimmed ≠ "1")
      (htwo : trimmed ≠ "2") : Faulty (modeFront ++ value) (.invalidMode trimmed)
  | log : Faulty logFront .emptyLogPath

def Sound (arg : String) : Prop := ∀ e, ¬ Faulty arg e

/-- An argument that has neither front. -/
structure Foreign (arg : String) : Prop where
  noMode : ∀ value, arg ≠ modeFront ++ value
  noLog : ∀ path, arg ≠ logFront ++ path

/-- What an argument sets, by its form. -/
inductive Sets : String → Except SetupError (Option Setting) → Prop
  | faulty {arg : String} {e : SetupError} (h : Faulty arg e) : Sets arg (.error e)
  | mode {value : String} {mode : Mode} (h : Mode.Numbered value mode) :
      Sets (modeFront ++ value) (.ok (some (.mode mode)))
  | log {path : String} (h : path ≠ "") : Sets (logFront ++ path) (.ok (some (.log path)))
  | foreign {arg : String} (h : Foreign arg) : Sets arg (.ok none)

theorem modeFront_eq : modeOption ++ "=" = modeFront := by decide

theorem logFront_eq : logOption ++ "=" = logFront := by decide

theorem modeFront_append_ne (value path : String) : modeFront ++ value ≠ logFront ++ path := by
  intro h
  have hlist := congrArg String.toList h
  simp [modeFront, logFront] at hlist

theorem setting?_mode (value : String) :
    setting? (modeFront ++ value) = (Mode.ofOption value).map fun mode => some (.mode mode) := by
  rw [setting?, Argument.value?, modeFront_eq, Argument.behind?_eq_some_iff.mpr rfl]

theorem setting?_log (path : String) : setting? (logFront ++ path) =
    if path = "" then .error .emptyLogPath else .ok (some (.log path)) := by
  have hmode : Argument.behind? modeFront (logFront ++ path) = none :=
    Argument.behind?_eq_none_iff.mpr fun value => (modeFront_append_ne value path).symm
  rw [setting?, Argument.value?, modeFront_eq, hmode, Argument.value?, logFront_eq,
    Argument.behind?_eq_some_iff.mpr rfl]
  by_cases h : path = ""
  · rw [if_pos h, h]
    rfl
  · simp [h]

theorem setting?_foreign {arg : String} (h : Foreign arg) : setting? arg = .ok none := by
  rw [setting?, Argument.value?, modeFront_eq, Argument.behind?_eq_none_iff.mpr h.noMode,
    Argument.value?, logFront_eq, Argument.behind?_eq_none_iff.mpr h.noLog]

/-- Whatever is set is set by one of the four forms; no argument has two of them. -/
theorem setting?_eq_iff {arg : String} {result : Except SetupError (Option Setting)} :
    setting? arg = result ↔ Sets arg result := by
  constructor
  · rintro rfl
    by_cases hmode : ∃ value, arg = modeFront ++ value
    · obtain ⟨value, rfl⟩ := hmode
      rw [setting?_mode]
      obtain ⟨mode, hnumber⟩ | ⟨trimmed, htrim, hone, htwo⟩ := Mode.numbered_or_trims value
      · rw [Mode.ofOption_of_numbered hnumber]
        exact .mode hnumber
      · rw [Mode.ofOption_of_trims htrim hone htwo]
        exact .faulty (.mode htrim hone htwo)
    by_cases hlog : ∃ path, arg = logFront ++ path
    · obtain ⟨path, rfl⟩ := hlog
      rw [setting?_log]
      by_cases h : path = ""
      · rw [if_pos h, h]
        exact .faulty .log
      · rw [if_neg h]
        exact .log h
    have hforeign : Foreign arg := ⟨not_exists.mp hmode, not_exists.mp hlog⟩
    rw [setting?_foreign hforeign]
    exact .foreign hforeign
  · intro h
    cases h with
    | faulty h =>
      cases h with
      | mode h hone htwo => rw [setting?_mode, Mode.ofOption_of_trims h hone htwo]; rfl
      | log => exact setting?_log ""
    | mode h => rw [setting?_mode, Mode.ofOption_of_numbered h]; rfl
    | log h => rw [setting?_log, if_neg h]
    | foreign h => exact setting?_foreign h

def fault? (arg : String) : Option SetupError :=
  match setting? arg with
  | .error e => some e
  | .ok _ => none

def mode? (arg : String) : Option Mode :=
  match setting? arg with
  | .ok (some (.mode mode)) => some mode
  | _ => none

def log? (arg : String) : Option String :=
  match setting? arg with
  | .ok (some (.log path)) => some path
  | _ => none

theorem fault?_eq_some_iff {arg : String} {e : SetupError} : fault? arg = some e ↔ Faulty arg e := by
  constructor
  · intro h
    rw [fault?] at h
    split at h
    · rename_i hsetting
      cases h
      cases setting?_eq_iff.mp hsetting with
      | faulty h => exact h
    · cases h
  · intro h
    rw [fault?, setting?_eq_iff.mpr (.faulty h)]

theorem fault?_eq_none_iff {arg : String} : fault? arg = none ↔ Sound arg := by
  rw [Option.eq_none_iff_forall_ne_some]
  exact forall_congr' fun e => not_congr fault?_eq_some_iff

theorem mode?_eq_some_iff {arg : String} {mode : Mode} :
    mode? arg = some mode ↔ ∃ value, arg = modeFront ++ value ∧ Mode.Numbered value mode := by
  constructor
  · intro h
    rw [mode?] at h
    split at h
    · rename_i hsetting
      cases h
      cases setting?_eq_iff.mp hsetting with
      | mode h => exact ⟨_, rfl, h⟩
    · cases h
  · rintro ⟨value, rfl, h⟩
    rw [mode?, setting?_eq_iff.mpr (.mode h)]

theorem log?_eq_some_iff {arg path : String} :
    log? arg = some path ↔ arg = logFront ++ path ∧ path ≠ "" := by
  constructor
  · intro h
    rw [log?] at h
    split at h
    · rename_i hsetting
      cases h
      cases setting?_eq_iff.mp hsetting with
      | log h => exact ⟨rfl, h⟩
    · cases h
  · rintro ⟨rfl, h⟩
    rw [log?, setting?_eq_iff.mpr (.log h)]

/-- One scan from the left finds what three searches find: one from the left for a fault, and one each from
the right for the mode and the log. -/
theorem scan_eq (block : List String) (mode : Option Mode) (path : String) :
    scan mode path block = match block.findSome? fault? with
      | some e => .error e
      | none => .ok ((block.reverse.findSome? mode?).or mode, (block.reverse.findSome? log?).getD path) := by
  induction block generalizing mode path with
  | nil => rfl
  | cons arg rest ih =>
    simp only [scan, List.findSome?_cons, List.reverse_cons, List.findSome?_append, List.findSome?_nil]
    cases h : setting? arg with
    | error e => simp [fault?, h, bind, Except.bind]
    | ok setting =>
      have hfault : fault? arg = none := by rw [fault?, h]
      rw [hfault]
      -- What is set here is what the rest begins with, and counts if nothing behind sets it again.
      rcases setting with _ | ⟨next⟩ | ⟨next⟩
      · have hmode : mode? arg = none := by rw [mode?, h]
        have hlog : log? arg = none := by rw [log?, h]
        simp only [hmode, hlog, Option.or_none]
        exact ih mode path
      · have hmode : mode? arg = some next := by rw [mode?, h]
        have hlog : log? arg = none := by rw [log?, h]
        simp only [hmode, hlog, Option.or_none, Option.or_assoc, Option.some_or]
        exact ih (some next) path
      · have hmode : mode? arg = none := by rw [mode?, h]
        have hlog : log? arg = some next := by rw [log?, h]
        simp only [hmode, hlog, Option.or_none, Option.or_some]
        exact ih mode next

/-- What stands behind a front in the last of the options that have it. -/
def LastBehind (front : String) (block : List String) (value : String) : Prop :=
  ∃ before after, block = before ++ (front ++ value) :: after ∧ ∀ other, front ++ other ∉ after

def NoneBehind (front : String) (block : List String) : Prop := ∀ value, front ++ value ∉ block

section last

variable {β : Type} {front : String} {block : List String} {f : String → Option β}
  {R : String → β → Prop}

theorem findSome?_reverse_eq_none_iff
    (hnone : ∀ arg ∈ block, f arg = none ↔ ∀ value, arg ≠ front ++ value) :
    block.reverse.findSome? f = none ↔ NoneBehind front block := by
  rw [List.findSome?_eq_none_iff]
  constructor
  · intro h value hmem
    exact (hnone _ hmem).mp (h _ (List.mem_reverse.mpr hmem)) value rfl
  · intro h arg hmem
    have hmem' := List.mem_reverse.mp hmem
    refine (hnone arg hmem').mpr ?_
    rintro value rfl
    exact h value hmem'

theorem findSome?_reverse_eq_some_iff {b : β}
    (hsome : ∀ arg ∈ block, f arg = some b ↔ ∃ value, arg = front ++ value ∧ R value b)
    (hnone : ∀ arg ∈ block, f arg = none ↔ ∀ value, arg ≠ front ++ value) :
    block.reverse.findSome? f = some b ↔ ∃ value, LastBehind front block value ∧ R value b := by
  rw [List.findSome?_eq_some_iff]
  constructor
  · rintro ⟨after, arg, before, hsplit, harg, hafter⟩
    obtain rfl : block = before.reverse ++ arg :: after.reverse := by
      simpa using congrArg List.reverse hsplit
    have hmem : arg ∈ before.reverse ++ arg :: after.reverse :=
      List.mem_append_right _ List.mem_cons_self
    obtain ⟨value, rfl, hvalue⟩ := (hsome arg hmem).mp harg
    refine ⟨value, ⟨before.reverse, after.reverse, rfl, ?_⟩, hvalue⟩
    intro other hlater
    have hin := List.mem_append_right before.reverse (List.mem_cons_of_mem (front ++ value) hlater)
    exact (hnone _ hin).mp (hafter _ (List.mem_reverse.mp hlater)) other rfl
  · rintro ⟨value, ⟨before, after, rfl, hafter⟩, hvalue⟩
    refine ⟨after.reverse, front ++ value, before.reverse, by simp, ?_, ?_⟩
    · have hmem : front ++ value ∈ before ++ (front ++ value) :: after :=
        List.mem_append_right _ List.mem_cons_self
      exact (hsome _ hmem).mpr ⟨value, rfl, hvalue⟩
    · intro arg hmem
      have hlater := List.mem_reverse.mp hmem
      refine (hnone arg (List.mem_append_right _ (List.mem_cons_of_mem _ hlater))).mpr ?_
      rintro other rfl
      exact hafter other hlater

end last

/-- What a block of options says. -/
inductive Means (block : List String) : Except SetupError Config → Prop
  | fault {before after : List String} {arg : String} {e : SetupError}
      (hblock : block = before ++ arg :: after) (hbefore : ∀ earlier ∈ before, Sound earlier)
      (h : Faulty arg e) : Means block (.error e)
  | missing (hsound : ∀ arg ∈ block, Sound arg) (hnone : NoneBehind modeFront block) :
      Means block (.error .missingMode)
  | config {number path : String} {mode : Mode} (hsound : ∀ arg ∈ block, Sound arg)
      (hlast : LastBehind modeFront block number) (hmode : Mode.Numbered number mode)
      (hpath : LastBehind logFront block path ∨ NoneBehind logFront block ∧ path = defaultLogName) :
      Means block (.ok { mode, logPath := path })

section sound

variable {block : List String} (hsound : ∀ arg ∈ block, Sound arg)
include hsound

theorem findSome?_fault?_eq_none : block.findSome? fault? = none :=
  List.findSome?_eq_none_iff.mpr fun arg hmem => fault?_eq_none_iff.mpr (hsound arg hmem)

theorem mode?_eq_none_iff :
    ∀ arg ∈ block, mode? arg = none ↔ ∀ value, arg ≠ modeFront ++ value := by
  intro arg hmem
  rw [Option.eq_none_iff_forall_ne_some]
  constructor
  · rintro h value rfl
    obtain ⟨mode, hnumber⟩ | ⟨trimmed, htrim, hone, htwo⟩ := Mode.numbered_or_trims value
    · exact h mode (mode?_eq_some_iff.mpr ⟨value, rfl, hnumber⟩)
    · exact hsound _ hmem _ (.mode htrim hone htwo)
  · intro h mode hmode
    obtain ⟨value, harg, _⟩ := mode?_eq_some_iff.mp hmode
    exact h value harg

theorem log?_eq_some_iff_of_sound (path : String) :
    ∀ arg ∈ block, log? arg = some path ↔ ∃ value, arg = logFront ++ value ∧ value = path := by
  intro arg hmem
  rw [log?_eq_some_iff]
  constructor
  · rintro ⟨harg, _⟩
    exact ⟨path, harg, rfl⟩
  · rintro ⟨_, rfl, rfl⟩
    refine ⟨rfl, ?_⟩
    rintro rfl
    exact hsound _ hmem _ .log

theorem log?_eq_none_iff : ∀ arg ∈ block, log? arg = none ↔ ∀ path, arg ≠ logFront ++ path := by
  intro arg hmem
  rw [Option.eq_none_iff_forall_ne_some]
  refine forall_congr' fun path => not_congr ?_
  simpa using log?_eq_some_iff_of_sound hsound path arg hmem

theorem lastMode_eq_none_iff : block.reverse.findSome? mode? = none ↔ NoneBehind modeFront block :=
  findSome?_reverse_eq_none_iff (mode?_eq_none_iff hsound)

theorem lastMode_eq_some_iff {mode : Mode} : block.reverse.findSome? mode? = some mode ↔
    ∃ number, LastBehind modeFront block number ∧ Mode.Numbered number mode :=
  findSome?_reverse_eq_some_iff (fun _ _ => mode?_eq_some_iff) (mode?_eq_none_iff hsound)

theorem lastLog_eq_iff {path : String} : (block.reverse.findSome? log?).getD defaultLogName = path ↔
    LastBehind logFront block path ∨ NoneBehind logFront block ∧ path = defaultLogName := by
  have hsome : block.reverse.findSome? log? = some path ↔
      ∃ value, LastBehind logFront block value ∧ value = path :=
    findSome?_reverse_eq_some_iff (log?_eq_some_iff_of_sound hsound path) (log?_eq_none_iff hsound)
  rw [Option.getD_eq_iff, hsome, findSome?_reverse_eq_none_iff (log?_eq_none_iff hsound), exists_eq_right,
    eq_comm (a := defaultLogName)]

end sound

theorem ofArgs_eq (args : List String) :
    ofArgs args = match (optionBlock args).findSome? fault? with
      | some e => .error e
      | none => match (optionBlock args).reverse.findSome? mode? with
        | none => .error .missingMode
        | some mode =>
          .ok { mode, logPath := ((optionBlock args).reverse.findSome? log?).getD defaultLogName } := by
  rw [ofArgs, scan_eq]
  cases (optionBlock args).findSome? fault? with
  | some e => rfl
  | none =>
    rw [Option.or_none]
    cases (optionBlock args).reverse.findSome? mode? <;> rfl

theorem means_ofArgs (args : List String) : Means (optionBlock args) (ofArgs args) := by
  rw [ofArgs_eq]
  cases hfault : (optionBlock args).findSome? fault? with
  | some e =>
    obtain ⟨before, arg, after, hblock, harg, hbefore⟩ := List.findSome?_eq_some_iff.mp hfault
    exact .fault hblock (fun earlier hmem => fault?_eq_none_iff.mp (hbefore earlier hmem))
      (fault?_eq_some_iff.mp harg)
  | none =>
    have hsound : ∀ arg ∈ optionBlock args, Sound arg := fun arg hmem =>
      fault?_eq_none_iff.mp (List.findSome?_eq_none_iff.mp hfault arg hmem)
    cases hmode : (optionBlock args).reverse.findSome? mode? with
    | none => exact .missing hsound ((lastMode_eq_none_iff hsound).mp hmode)
    | some mode =>
      obtain ⟨number, hlast, hnumber⟩ := (lastMode_eq_some_iff hsound).mp hmode
      exact .config hsound hlast hnumber ((lastLog_eq_iff hsound).mp rfl)

theorem ofArgs_eq_of_means {args : List String} {result : Except SetupError Config}
    (h : Means (optionBlock args) result) : ofArgs args = result := by
  rw [ofArgs_eq]
  cases h with
  | @fault before after arg e hblock hbefore h =>
    have hfault : (optionBlock args).findSome? fault? = some e := by
      refine List.findSome?_eq_some_iff.mpr ⟨before, arg, after, hblock, fault?_eq_some_iff.mpr h, ?_⟩
      exact fun earlier hmem => fault?_eq_none_iff.mpr (hbefore earlier hmem)
    rw [hfault]
  | missing hsound hnone =>
    rw [findSome?_fault?_eq_none hsound, (lastMode_eq_none_iff hsound).mpr hnone]
  | config hsound hlast hmode hpath =>
    rw [findSome?_fault?_eq_none hsound, (lastMode_eq_some_iff hsound).mpr ⟨_, hlast, hmode⟩,
      (lastLog_eq_iff hsound).mpr hpath]

/-- The longest run of arguments with a dash that begins behind the program's name. -/
structure IsOptionBlock (args block : List String) : Prop where
  begins : block <+: args.drop 1
  dashed : ∀ arg ∈ block, ∃ rest, arg = "-" ++ rest
  longest : ∀ other, other <+: args.drop 1 → (∀ arg ∈ other, ∃ rest, arg = "-" ++ rest) →
    other.length ≤ block.length

theorem isOptionBlock_optionBlock (args : List String) : IsOptionBlock args (optionBlock args) where
  begins := List.takeWhile_prefix _
  dashed arg hmem := Argument.startsWithDash_iff.mp (List.mem_takeWhile_imp hmem)
  longest other hbegins hdashed := by
    obtain ⟨rest, hrest⟩ := hbegins
    have hall : ∀ arg ∈ other, Argument.startsWithDash arg = true := fun arg hmem =>
      Argument.startsWithDash_iff.mpr (hdashed arg hmem)
    rw [optionBlock, ← hrest, List.takeWhile_append_of_pos hall, List.length_append]
    exact Nat.le_add_right _ _

theorem IsOptionBlock.eq_optionBlock {args block : List String} (h : IsOptionBlock args block) :
    block = optionBlock args := by
  have hown := isOptionBlock_optionBlock args
  have hle := hown.longest block h.begins h.dashed
  have hge := h.longest _ hown.begins hown.dashed
  exact (List.prefix_of_prefix_length_le h.begins hown.begins hle).eq_of_length_le hge

theorem findSome?_foreign {β : Type} {f : String → Option β} {foreign : String} (h : f foreign = none)
    (before after : List String) :
    (before ++ foreign :: after).findSome? f = (before ++ after).findSome? f := by
  rw [List.findSome?_append, List.findSome?_cons, h, List.findSome?_append]

theorem ofArgs_foreign {foreign : String} (hforeign : Foreign foreign)
    (hdash : ∃ rest, foreign = "-" ++ rest) (program : String) (before after : List String) :
    ofArgs (program :: (before ++ foreign :: after)) = ofArgs (program :: (before ++ after)) := by
  have hscan (before after : List String) : scan none defaultLogName (before ++ foreign :: after) =
      scan none defaultLogName (before ++ after) := by
    have hsetting := setting?_foreign hforeign
    have hfault : fault? foreign = none := by rw [fault?, hsetting]
    have hmode : mode? foreign = none := by rw [mode?, hsetting]
    have hlog : log? foreign = none := by rw [log?, hsetting]
    simp only [scan_eq, List.reverse_append, List.reverse_cons, List.append_assoc, List.singleton_append,
      findSome?_foreign hfault, findSome?_foreign hmode, findSome?_foreign hlog]
  simp only [ofArgs, optionBlock, List.drop_one, List.tail_cons, List.takeWhile_append]
  by_cases hbefore : (before.takeWhile Argument.startsWithDash).length = before.length
  · rw [if_pos hbefore, if_pos hbefore, List.takeWhile_cons_of_pos (Argument.startsWithDash_iff.mpr hdash),
      hscan]
  · rw [if_neg hbefore, if_neg hbefore]

theorem append_ne_of_glued {glued : String} (h : ∀ value, glued ≠ "=" ++ value) (name value : String) :
    name ++ glued ≠ name ++ "=" ++ value := by
  intro heq
  apply h value
  rw [← String.toList_inj] at heq ⊢
  simpa [String.toList_append] using heq

theorem foreign_of_glued {glued : String} (h : ∀ value, glued ≠ "=" ++ value) :
    Foreign (modeOption ++ glued) ∧ Foreign (logOption ++ glued) := by
  have hmode := append_ne_of_glued h modeOption
  have hlog := append_ne_of_glued h logOption
  rw [modeFront_eq] at hmode
  rw [logFront_eq] at hlog
  refine ⟨⟨hmode, ?_⟩, ⟨?_, hlog⟩⟩
  · intro path heq
    have hlist := congrArg String.toList heq
    simp [modeOption, logFront] at hlist
  · intro number heq
    have hlist := congrArg String.toList heq
    simp [logOption, modeFront] at hlist

/-- A command line has one block of options, and sets a session up with what this block says. Foreign options
can be left out, as those that only begin with the name of a known one. -/
theorem ofArgs_eq_iff_means (args : List String) :
    (∃! block, IsOptionBlock args block) ∧
    (∀ block, IsOptionBlock args block → ∀ result, ofArgs args = result ↔ Means block result) ∧
    (∀ program before foreign after, args = program :: (before ++ foreign :: after) → Foreign foreign →
      (∃ rest, foreign = "-" ++ rest) → ofArgs args = ofArgs (program :: (before ++ after))) ∧
    ∀ glued, (∀ value, glued ≠ "=" ++ value) →
      Foreign ("--record-replay" ++ glued) ∧ Foreign ("--log-file-rr" ++ glued) := by
  refine ⟨?_, ?_, ?_, fun glued => foreign_of_glued⟩
  · exact ⟨_, isOptionBlock_optionBlock args, fun block h => h.eq_optionBlock⟩
  · intro block h result
    rw [h.eq_optionBlock]
    constructor
    · rintro rfl
      exact means_ofArgs args
    · exact ofArgs_eq_of_means
  · rintro program before foreign after rfl hforeign hdash
    exact ofArgs_foreign hforeign hdash program before after

def repeatedOptions : List String :=
  ["--record-replay=1", "--record-replayer=7", "--log-file-rr=a", "--record-replay= 2\t", "--trace"]

def repeatedArgs : List String := "tool" :: (repeatedOptions ++ ["ls", "--log-file-rr="])

theorem ofArgs_eq_iff_means_repeated :
    ofArgs repeatedArgs = .ok { mode := .replay, logPath := "a" } ∧
    ofArgs ["tool", "--record-replay=1", "--log-file-rr=a", "--record-replay= 2\t", "--trace", "ls",
      "--log-file-rr="] = .ok { mode := .replay, logPath := "a" } := by
  obtain ⟨_, hmeans, hforeign, hglued⟩ := ofArgs_eq_iff_means repeatedArgs
  have hblock : IsOptionBlock repeatedArgs repeatedOptions := by
    have hown : optionBlock repeatedArgs = repeatedOptions := by decide
    exact hown ▸ isOptionBlock_optionBlock repeatedArgs
  have hsound : ∀ arg ∈ repeatedOptions, fault? arg = none := by decide
  have hnone (front : String) (block : List String)
      (h : ∀ arg ∈ block, Argument.behind? front arg = none) : NoneBehind front block :=
    fun value hmem => Argument.behind?_eq_none_iff.mp (h _ hmem) value rfl
  have hlast : LastBehind modeFront repeatedOptions " 2\t" :=
    ⟨repeatedOptions.take 3, ["--trace"], by decide, hnone _ _ (by decide)⟩
  have hpath : LastBehind logFront repeatedOptions "a" :=
    ⟨repeatedOptions.take 2, repeatedOptions.drop 3, by decide, hnone _ _ (by decide)⟩
  have hnumber : Mode.Numbered " 2\t" .replay := .replay (Blank.trims_iff.mpr (by decide))
  have hresult : ofArgs repeatedArgs = .ok { mode := .replay, logPath := "a" } := by
    refine (hmeans _ hblock _).mpr (.config ?_ hlast hnumber (.inl hpath))
    exact fun arg hmem => fault?_eq_none_iff.mp (hsound arg hmem)
  have hglue : ∀ value, "er=7" ≠ "=" ++ value := Argument.behind?_eq_none_iff.mp (by decide)
  refine ⟨hresult, ?_⟩
  rw [← hresult]
  exact (hforeign "tool" ["--record-replay=1"] "--record-replayer=7" _ rfl (hglued "er=7" hglue).1
    ⟨"-record-replayer=7", by decide⟩).symm

end Config

end Retrace
