import Retrace.Config
import Retrace.Proofs.Json.Members

namespace Retrace

namespace Mode

theorem ofJson?_toJson (mode : Mode) : ofJson? mode.toJson = some mode := by
  cases mode <;> decide

end Mode

namespace Config

/-- The fields that are written, with their values; any may be left out. -/
structure Written where
  mode : Option Mode
  logPath : Option String
  exitWaitRetries : Option UInt32
  exitWaitIntervalMs : Option UInt64
  reportLimit : Option UInt64

namespace Written

def fields (w : Written) : List (String × Option Json) :=
  [("mode", w.mode.map Mode.toJson),
   ("log_path", w.logPath.map Json.text),
   ("exit_wait_retries", w.exitWaitRetries.map fun n => .nat n.toNat),
   ("exit_wait_interval_ms", w.exitWaitIntervalMs.map fun n => .nat n.toNat),
   ("mismatch_report_limit", w.reportLimit.map fun n => .nat n.toNat)]

def members (w : Written) : List (String × Json) := Json.writtenFields w.fields

/-- What is written, and the defaults of what is not. -/
def config (w : Written) : Config :=
  let base : Config := {}
  { mode := w.mode.getD base.mode
    logPath := w.logPath.getD base.logPath
    exitWaitRetries := w.exitWaitRetries.getD base.exitWaitRetries
    exitWaitIntervalMs := w.exitWaitIntervalMs.getD base.exitWaitIntervalMs
    reportLimit := w.reportLimit.getD base.reportLimit }

def ofConfig (c : Config) : Written :=
  ⟨some c.mode, some c.logPath, some c.exitWaitRetries, some c.exitWaitIntervalMs, some c.reportLimit⟩

theorem map_fst_fields (w : Written) : w.fields.map (·.1) = fieldNames := rfl

theorem nodup_fieldNames : fieldNames.Nodup := by decide

theorem members_ofConfig (c : Config) : Json.record (ofConfig c).members = c.toJson := rfl

theorem text?_text (s : String) : (Json.text s).text? = some s := rfl

theorem field?_map {α : Type} {read : Json → Option α} {write : α → Json}
    (h : ∀ a, read (write a) = some a) (default : α) (value : Option α) :
    field? read default (value.map write) = some (value.getD default) := by
  cases value with
  | none => rfl
  | some a => exact h a

theorem ofJson?_of_fields {value : Json} {w : Written}
    (h : value.fields? fieldNames = some (w.fields.map (·.2))) : ofJson? value = some w.config := by
  have hmode := field?_map Mode.ofJson?_toJson ({} : Config).mode w.mode
  have hpath := field?_map text?_text ({} : Config).logPath w.logPath
  have hretries := field?_map Json.uint32?_nat ({} : Config).exitWaitRetries w.exitWaitRetries
  have hinterval := field?_map Json.uint64?_nat ({} : Config).exitWaitIntervalMs w.exitWaitIntervalMs
  have hlimit := field?_map Json.uint64?_nat ({} : Config).reportLimit w.reportLimit
  rw [ofJson?, h]
  simp only [fields, List.map_cons, List.map_nil, bind, Option.bind_some, hmode, hpath, hretries,
    hinterval, hlimit]
  rfl

variable {w : Written} {others members : List (String × Json)}

theorem ofJson?_record (hothers : ∀ other ∈ others, other.1 ∉ fieldNames)
    (hperm : members.Perm (w.members ++ others)) : ofJson? (.record members) = some w.config := by
  have hnodup : (w.fields.map (·.1)).Nodup := nodup_fieldNames
  apply ofJson?_of_fields
  exact Json.fields?_record hnodup hothers hperm (List.Subset.refl _)

theorem wellFormed_members (w : Written) : ∀ member ∈ w.members, member.2.WellFormed := by
  have hfield {name : String} {value : Json} (h : (name, some value) ∈ w.fields) : value.WellFormed := by
    simp only [fields, List.mem_cons, Prod.mk.injEq, List.not_mem_nil, or_false] at h
    rcases h with ⟨_, h⟩ | ⟨_, h⟩ | ⟨_, h⟩ | ⟨_, h⟩ | ⟨_, h⟩ <;>
      obtain ⟨written, _, rfl⟩ := Option.map_eq_some_iff.mp h.symm
    · exact Json.wellFormed_text _
    · exact Json.wellFormed_text written
    · exact Json.wellFormed_nat _
    · exact Json.wellFormed_nat _
    · exact Json.wellFormed_nat _
  rintro ⟨name, value⟩ hmem
  obtain ⟨⟨other, given⟩, hin, heq⟩ := List.mem_filterMap.mp hmem
  obtain ⟨written, rfl, hwritten⟩ := Option.map_eq_some_iff.mp heq
  cases hwritten
  exact hfield hin

theorem ofText?_render (hperm : members.Perm (w.members ++ others))
    (h : ∀ other ∈ others, other.2.WellFormed) :
    Json.ofText? (Json.record members).render = some (.record members) := by
  apply Json.ofText?_render
  apply Json.wellFormed_record
  intro member hmem
  rcases List.mem_append.mp (hperm.mem_iff.mp hmem) with hown | hother
  · exact w.wellFormed_members member hown
  · exact h member hother

end Written

theorem parse_eq {text : String} {value : Json} (h : Json.ofText? text = some value) :
    parse text = match ofJson? value with
      | some config => .ok config
      | none => .error .malformedConfig := by
  rw [parse, h]
  rfl

/-- What is read from a text: every configuration from its own, from the text of an object the values of
the fields it has with the defaults of the rest, and nothing if it has a field twice. -/
theorem parse_of_members :
    (∀ c : Config, parse c.render = .ok c) ∧
    (∀ (w : Written) (others members : List (String × Json)),
      (∀ other ∈ others, other.1 ∉ fieldNames) → members.Perm (w.members ++ others) →
      ((∀ other ∈ others, other.2.WellFormed) →
        Json.ofText? (Json.record members).render = some (.record members)) ∧
      ∀ text, Json.ofText? text = some (.record members) → parse text = .ok w.config) ∧
    ∀ (members : List (Option String × Json)), ∀ name ∈ fieldNames,
      2 ≤ (members.map (·.1)).count (some name) →
      ∀ text, Json.ofText? text = some (.object members) → parse text = .error .malformedConfig := by
  refine ⟨?_, ?_, ?_⟩
  · intro c
    have hperm : (Written.ofConfig c).members.Perm ((Written.ofConfig c).members ++ []) := by
      rw [List.append_nil]
    have hothers : ∀ other ∈ ([] : List (String × Json)), other.1 ∉ fieldNames := nofun
    have hrender := Written.ofText?_render hperm nofun
    have hread := Written.ofJson?_record hothers hperm
    rw [Written.members_ofConfig] at hrender hread
    rw [render, parse_eq hrender, hread]
    rfl
  · intro w others members hothers hperm
    refine ⟨Written.ofText?_render hperm, ?_⟩
    intro text htext
    rw [parse_eq htext, Written.ofJson?_record hothers hperm]
  · intro members name hname htwice text htext
    have htwice' : 2 ≤ (Json.valuesAt name members).length := by
      rw [Json.length_valuesAt]
      exact htwice
    rw [parse_eq htext, ofJson?, Json.fields?_eq_none hname htwice']
    rfl

def mixedFields : Written := ⟨some .replay, none, none, none, some 18446744073709551615⟩

def mixedOthers : List (String × Json) :=
  [("x", .number ⟨false, ['1'], [], some 400⟩), ("x", .string none)]

def mixedMembers : List (String × Json) :=
  [("x", .number ⟨false, ['1'], [], some 400⟩), ("mismatch_report_limit", .nat 18446744073709551615),
   ("mode", .text "replay"), ("x", .string none)]

def doubledMembers : List (Option String × Json) :=
  [(some "mode", .text "record"), (some "x", .null), (some "mode", .text "record")]

theorem parse_of_members_mixed :
    parse (Json.record mixedMembers).render =
      .ok { mode := .replay, reportLimit := 18446744073709551615 } ∧
    parse (Json.object doubledMembers).render = .error .malformedConfig := by
  have hperm : mixedMembers.Perm (mixedFields.members ++ mixedOthers) := by
    have hfields : mixedFields.members ++ mixedOthers =
        [mixedMembers[2], mixedMembers[1], mixedMembers[0], mixedMembers[3]] := rfl
    rw [hfields]
    exact ((List.Perm.swap _ _ _).trans ((List.Perm.swap _ _ _).cons _)).trans (List.Perm.swap _ _ _)
  have hothers : ∀ other ∈ mixedOthers, other.1 ∉ fieldNames := by decide
  have hlarge : Json.Number.IsLiteral ⟨false, ['1'], [], some 400⟩ :=
    ⟨by decide, List.forall_mem_singleton.mpr (by decide), by decide, nofun⟩
  have hwellFormed : ∀ other ∈ mixedOthers, other.2.WellFormed := by
    simp [mixedOthers, Json.WellFormed.number hlarge, Json.WellFormed.string]
  have hdoubled : (Json.object doubledMembers).WellFormed := by
    apply Json.WellFormed.object
    simp [doubledMembers, Json.wellFormed_text, Json.WellFormed.null]
  obtain ⟨_, hfields, htwice⟩ := parse_of_members
  obtain ⟨hrender, hread⟩ := hfields mixedFields mixedOthers mixedMembers hothers hperm
  exact ⟨hread _ (hrender hwellFormed),
    htwice doubledMembers "mode" (by decide) (by decide) _ (Json.ofText?_render hdoubled)⟩

end Config

end Retrace
