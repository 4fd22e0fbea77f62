import Retrace.Inspect.Report
import Retrace.Proofs.Json.Members
import Retrace.Proofs.Text.Utf8Reading

namespace Retrace.Log

namespace ReleaseTag

/-- UTF-8 up to the first zero, and zeros from there on. -/
structure IsText (tag : ReleaseTag) : Prop where
  front : ∃ cs, tag.bytes.takeWhile (· != 0) = Utf8.encode cs
  padding : ∀ b ∈ tag.bytes.dropWhile (· != 0), b = 0

theorem ofBytes_of_padded {tag : ReleaseTag} {front : Bytes} {n : Nat}
    (h : tag.bytes = front ++ Bytes.zeros n) : ofBytes front = tag := by
  obtain ⟨bytes, hlength⟩ := tag
  dsimp only at h
  have hsize : front.length + n = releaseTagLength := by
    rw [← hlength, h, List.length_append, Bytes.zeros, List.length_replicate]
  have hfew : min n releaseTagLength = n := by omega
  rw [ofBytes, ReleaseTag.mk.injEq, h, ← hsize, List.take_length_add_append, hsize, Bytes.zeros,
    List.take_replicate, hfew]
  rfl

theorem ofText_text {tag : ReleaseTag} (h : tag.IsText) : ofText tag.text = tag := by
  obtain ⟨cs, hfront⟩ := h.front
  have hpadding := List.eq_replicate_iff.mpr ⟨rfl, h.padding⟩
  rw [ofText, Utf8.encodeText, text, Utf8.decodeText, String.toList_ofList, hfront,
    Utf8.decode_encode]
  apply ofBytes_of_padded
  rw [Bytes.zeros, ← hpadding, ← hfront, List.takeWhile_append_dropWhile]

end ReleaseTag

/-- What the tag of an entry must be for its text to tell it. -/
def Entry.HasTextTag (e : Entry) : Prop := ∀ tag, e.body = .release tag → tag.IsText

theorem Kind.ofName?_name (kind : Kind) : ofName? kind.name = some kind := by cases kind <;> decide

namespace Body

theorem map_fst_members (body : Body) : body.members.map (·.1) = fieldNames body.kind := by
  cases body <;> rfl

theorem innerChoice?_class (c : CallerClass) :
    (innerChoice? c.toJson).bind CallerClass.ofName? = some c := by
  cases c <;> decide

theorem ofFields?_members {body : Body} (h : ∀ tag, body = .release tag → tag.IsText) :
    ofFields? body.kind (body.members.map (·.2)) = some body := by
  cases body with
  | acquire holder callerClass =>
    simp [kind, members, ofFields?, ThreadId.ofJson?, ThreadId.toJson, innerChoice?_class]
  | release tag =>
    have htext : ReleaseTag.ofJson? tag.toJson = some tag :=
      congrArg some (ReleaseTag.ofText_text (h tag rfl))
    simp [kind, members, ofFields?, htext]
  | _ =>
    simp [kind, members, ofFields?, ThreadId.ofJson?, ThreadId.toJson, KernelTid.ofJson?,
      KernelTid.toJson, Json.bool?]

end Body

namespace Entry

def names (e : Entry) : List String := e.members.map (·.1)

theorem names_eq (e : Entry) : e.names = "thread" :: "kind" :: Body.fieldNames e.kind := by
  rw [names, members, Body.taggedMembers, List.map_cons, List.map_cons, Body.map_fst_members]
  rfl

theorem nodup_names (e : Entry) : e.names.Nodup := by
  rw [names_eq]
  cases e.kind <;> decide

theorem keepsInside_members (e : Entry) : ∀ member ∈ e.members, member.2.KeepsInside := by
  have hword32 (w : UInt32) : (Json.nat w.toNat).KeepsInside :=
    Json.keepsInside_nat (Nat.lt_trans w.toNat_lt (by decide))
  have hword64 (w : UInt64) : (Json.nat w.toNat).KeepsInside := Json.keepsInside_nat w.toNat_lt
  obtain ⟨thread, body⟩ := e
  cases body <;>
    simp [members, Body.taggedMembers, Body.members, ThreadId.toJson, KernelTid.toJson,
      CallerClass.toJson, ReleaseTag.toJson, hword32, hword64, Json.keepsInside_text,
      Json.keepsInside_bool]

theorem wellFormed_members (e : Entry) : ∀ member ∈ e.members, member.2.WellFormed := by
  obtain ⟨thread, body⟩ := e
  cases body <;>
    simp [members, Body.taggedMembers, Body.members, ThreadId.toJson, KernelTid.toJson,
      CallerClass.toJson, ReleaseTag.toJson, Json.wellFormed_nat, Json.wellFormed_text,
      Json.WellFormed.bool]

section order

variable {e : Entry} {others members : List (String × Json)}

theorem isKeepable_iff (hperm : members.Perm (e.members ++ others)) :
    (Json.record members).isKeepable = true ↔ ∀ other ∈ others, other.2.KeepsInside := by
  rw [Json.isKeepable_record]
  constructor
  · intro h other hmem
    exact h other (hperm.mem_iff.mpr (List.mem_append_right _ hmem))
  · intro h member hmem
    rcases List.mem_append.mp (hperm.mem_iff.mp hmem) with hown | hother
    · exact keepsInside_members e member hown
    · exact h member hother

theorem wellFormed_record (hperm : members.Perm (e.members ++ others))
    (h : ∀ other ∈ others, other.2.WellFormed) : (Json.record members).WellFormed := by
  apply Json.wellFormed_record
  intro member hmem
  rcases List.mem_append.mp (hperm.mem_iff.mp hmem) with hown | hother
  · exact wellFormed_members e member hown
  · exact h member hother

def fields (e : Entry) : List (String × Option Json) :=
  e.members.map fun member => (member.1, some member.2)

theorem map_fst_fields (e : Entry) : e.fields.map (·.1) = e.names := by
  rw [fields, List.map_map]
  rfl

theorem ofJson?_of_given {members : List (Option String × Json)} (htag : e.HasTextTag)
    (hthread : Json.atMostOne? "thread" members = some (some e.thread.toJson))
    (hkind : Json.atMostOne? "kind" members = some (some (.text e.kind.name)))
    (hbody : Json.allFields? (Body.fieldNames e.kind) (.object members) =
      some (e.body.members.map (·.2)))
    (hkeep : (Json.object members).isKeepable = true) : ofJson? (.object members) = some e := by
  have hname : kindOf? (.text e.kind.name) = some e.kind := Kind.ofName?_name e.kind
  have hslot : ThreadId.ofJson? e.thread.toJson = some e.thread := by
    rw [ThreadId.ofJson?, ThreadId.toJson, Json.uint32?_nat]
    rfl
  have hfields : Body.ofFields? e.kind (e.body.members.map (·.2)) = some e.body :=
    Body.ofFields?_members htag
  simp only [ofJson?, hkeep, if_true, Body.ofMembers?, hthread, hslot, hkind, hname, hbody, hfields,
    bind, Option.bind_some]
  rfl

/-- An entry is read from its members in any order and between any others if all of these can be kept, and
not at all if one cannot. -/
theorem ofJson?_record (htag : e.HasTextTag) (hothers : ∀ other ∈ others, other.1 ∉ e.names)
    (hperm : members.Perm (e.members ++ others)) :
    ofJson? (.record members) = if (Json.record members).isKeepable then some e else none := by
  split
  · rename_i hkeep
    have hnodup : (e.fields.map (·.1)).Nodup := by
      rw [map_fst_fields]
      exact nodup_names e
    have hforeign : ∀ other ∈ others, other.1 ∉ e.fields.map (·.1) := by
      rw [map_fst_fields]
      exact hothers
    have hwritten : members.Perm (Json.writtenFields e.fields ++ others) := by
      rw [fields, Json.writtenFields_some]
      exact hperm
    have hbody : e.body.members.map (fun member => (member.1, some member.2)) ⊆ e.fields :=
      fun field hmem => List.mem_cons_of_mem _ (List.mem_cons_of_mem _ hmem)
    apply ofJson?_of_given htag
    · exact Json.atMostOne?_record hnodup hforeign hwritten List.mem_cons_self
    · exact Json.atMostOne?_record hnodup hforeign hwritten
        (List.mem_cons_of_mem _ List.mem_cons_self)
    · have hfields := Json.allFields?_record hnodup hforeign hwritten hbody
      rw [Body.map_fst_members] at hfields
      exact hfields
    · exact hkeep
  · rename_i hkeep
    exact if_neg hkeep

theorem ofJson?_record_iff (htag : e.HasTextTag) (hothers : ∀ other ∈ others, other.1 ∉ e.names)
    (hperm : members.Perm (e.members ++ others)) :
    (ofJson? (.record members) = some e ↔ ∀ other ∈ others, other.2.KeepsInside) ∧
    (ofJson? (.record members) = none ↔ ∃ other ∈ others, ¬other.2.KeepsInside) := by
  have hkeepable := isKeepable_iff hperm
  rw [ofJson?_record htag hothers hperm]
  split
  · rename_i hkeep
    have hall := hkeepable.mp hkeep
    exact ⟨iff_of_true rfl hall, iff_of_false nofun fun ⟨other, hmem, hnot⟩ => hnot (hall other hmem)⟩
  · rename_i hkeep
    have hnone := mt hkeepable.mpr hkeep
    refine ⟨iff_of_false nofun hnone, iff_of_true rfl ?_⟩
    simpa only [not_forall, exists_prop] using hnone

theorem ofText?_record {text : String} (h : Json.ofText? text = some (.record members)) :
    (Json.ofText? text).bind ofJson? = ofJson? (.record members) := by
  rw [h]
  rfl

end order

end Entry

end Retrace.Log

namespace Retrace.Inspect.Report

open Log

def others (r : Report) : List (String × Json) :=
  [("index", .nat r.index), ("offset", .nat r.offset)] ++ ([("payload_len", .nat r.payloadLength)] ++
    (r.preview.map fun preview => ("payload_preview", Json.text preview)).toList)

structure FitsWords (r : Report) : Prop where
  index_lt : r.index < UInt64.size
  offset_lt : r.offset < UInt64.size
  payloadLength_lt : r.payloadLength < UInt64.size

theorem exists_members (r : Report) :
    ∃ members, r.toJson = .record members ∧ members.Perm (r.entry.members ++ r.others) := by
  obtain ⟨index, offset, entry, payloadLength, preview⟩ := r
  cases preview with
  | none =>
    refine ⟨_, rfl, ?_⟩
    rw [List.append_assoc, List.append_assoc]
    exact List.perm_append_comm_assoc _ _ _
  | some preview =>
    refine ⟨_, rfl, ?_⟩
    rw [List.append_assoc, List.append_assoc]
    exact List.perm_append_comm_assoc _ _ _

theorem others_foreign (r : Report) : ∀ other ∈ r.others, other.1 ∉ r.entry.names := by
  have hnames (name : String) (h : name ∈ ["index", "offset", "payload_len", "payload_preview"]) :
      name ∉ r.entry.names := by
    rw [Entry.names_eq]
    generalize r.entry.kind = kind
    revert name
    cases kind <;> decide
  obtain ⟨index, offset, entry, payloadLength, preview⟩ := r
  cases preview <;> simp [others, hnames]

theorem others_keepsInside {r : Report} (h : r.FitsWords) :
    ∀ other ∈ r.others, other.2.KeepsInside := by
  obtain ⟨hindex, hoffset, hlength⟩ := h
  obtain ⟨index, offset, entry, payloadLength, preview⟩ := r
  cases preview <;>
    simp [others, Json.keepsInside_text, Json.keepsInside_nat hindex, Json.keepsInside_nat hoffset,
      Json.keepsInside_nat hlength]

theorem others_wellFormed (r : Report) : ∀ other ∈ r.others, other.2.WellFormed := by
  obtain ⟨index, offset, entry, payloadLength, preview⟩ := r
  cases preview <;> simp [others, Json.wellFormed_text, Json.wellFormed_nat]

end Retrace.Inspect.Report

namespace Retrace.Log.Entry

/-- The members of an entry have different names, and the entry is read back from its text. It is read from
every text of an object in which its members and others stand in any order, just if each of the others can
be kept; if not, nothing is read. The others of a report can be kept. -/
theorem read_back_unless_unkept {e : Entry} (htag : e.HasTextTag) :
    e.names.Nodup ∧
    (Json.ofText? e.toJson.render).bind ofJson? = some e ∧
    (∀ others members : List (String × Json), (∀ other ∈ others, other.1 ∉ e.names) →
      members.Perm (e.members ++ others) →
      ((∀ other ∈ others, other.2.WellFormed) →
        Json.ofText? (Json.record members).render = some (.record members)) ∧
      ∀ text, Json.ofText? text = some (.record members) →
        ((Json.ofText? text).bind ofJson? = some e ↔ ∀ other ∈ others, other.2.KeepsInside) ∧
        ((Json.ofText? text).bind ofJson? = none ↔ ∃ other ∈ others, ¬other.2.KeepsInside)) ∧
    ∀ report : Inspect.Report, report.entry = e → report.FitsWords →
      (Json.ofText? (report.render .json)).bind ofJson? = some e := by
  refine ⟨nodup_names e, ?_, ?_, ?_⟩
  · have hothers : ∀ other ∈ ([] : List (String × Json)), other.1 ∉ e.names := nofun
    have hperm : e.members.Perm (e.members ++ []) := by rw [List.append_nil]
    rw [toJson, ofText?_record (Json.ofText?_render (wellFormed_record hperm nofun))]
    exact (ofJson?_record_iff htag hothers hperm).1.mpr nofun
  · intro others members hothers hperm
    refine ⟨fun h => Json.ofText?_render (wellFormed_record hperm h), ?_⟩
    intro text htext
    rw [ofText?_record htext]
    exact ofJson?_record_iff htag hothers hperm
  · rintro report rfl hfits
    obtain ⟨members, hjson, hperm⟩ := report.exists_members
    have hrender := Json.ofText?_render (wellFormed_record hperm report.others_wellFormed)
    rw [Inspect.Report.render, hjson, ofText?_record hrender]
    exact (ofJson?_record_iff htag report.others_foreign hperm).1.mpr
      (Inspect.Report.others_keepsInside hfits)

def farewell : Entry := .release .main (.ofText "é\"\n")

def note : String × Json := ("note", .array [.bool true, .text "\x00"])

theorem read_back_unless_unkept_reversed :
    farewell.HasTextTag ∧
    (Json.ofText? (Json.record (note :: farewell.members.reverse)).render).bind ofJson? = some farewell ∧
    (Json.ofText? (Inspect.Report.render .json ⟨7, 168, farewell, 0, none⟩)).bind ofJson? =
      some farewell := by
  have htag : farewell.HasTextTag := by
    rintro tag ⟨⟩
    have hzeros : (ReleaseTag.ofText "é\"\n").bytes.dropWhile (· != 0) = Bytes.zeros 12 := by decide
    exact ⟨⟨['é', '"', '\n'], by decide⟩, fun b hb => List.eq_of_mem_replicate (hzeros ▸ hb)⟩
  have hforeign : ∀ other ∈ [note], other.1 ∉ farewell.names := by decide
  have hperm : (note :: farewell.members.reverse).Perm (farewell.members ++ [note]) :=
    (List.perm_append_singleton note _).symm.trans ((List.reverse_perm _).append_right _)
  have hwellFormed : ∀ other ∈ [note], other.2.WellFormed := by
    rw [List.forall_mem_singleton]
    exact .array (List.forall_mem_cons.mpr ⟨.bool true, List.forall_mem_singleton.mpr (.string _)⟩)
  have hkeep : ∀ other ∈ [note], other.2.KeepsInside := by
    rw [List.forall_mem_singleton]
    exact ⟨by decide, by decide⟩
  obtain ⟨_, _, hobject, hreport⟩ := read_back_unless_unkept htag
  obtain ⟨hrender, hread⟩ := hobject [note] _ hforeign hperm
  exact ⟨htag, (hread _ (hrender hwellFormed)).1.mpr hkeep,
    hreport ⟨7, 168, farewell, 0, none⟩ rfl ⟨by decide, by decide, by decide⟩⟩

def nested : Nat → Json
  | 0 => .null
  | depth + 1 => .array [nested depth]

theorem depth_nested (n : Nat) : (nested n).depth = n := by
  induction n with
  | zero => rfl
  | succ n ih => rw [nested, Json.depth, Json.depthOfItems, ih, Json.depthOfItems, Nat.max_zero]

theorem wellFormed_nested (n : Nat) : (nested n).WellFormed := by
  induction n with
  | zero => exact .null
  | succ n ih => exact .array (List.forall_mem_singleton.mpr ih)

/-- The three reasons for which a value is not kept: a number that is too large, half a surrogate pair,
and 128 levels together with the object around it. -/
def unkept : List Json := [.number ⟨false, ['1'], [], some 309⟩, .string none, nested 127]

theorem wellFormed_unkept : ∀ value ∈ unkept, value.WellFormed := by
  have hlarge : Json.Number.IsLiteral ⟨false, ['1'], [], some 309⟩ :=
    ⟨by decide, List.forall_mem_singleton.mpr (by decide), by decide, nofun⟩
  simp [unkept, Json.WellFormed.number hlarge, Json.WellFormed.string, wellFormed_nested]

theorem not_keepsInside_unkept : ∀ value ∈ unkept, ¬value.KeepsInside := by
  simp only [unkept, List.forall_mem_cons]
  refine ⟨?_, ?_, ?_, nofun⟩
  · rintro ⟨_, hsound⟩
    exact absurd hsound (by decide)
  · rintro ⟨_, hsound⟩
    exact absurd hsound (by decide)
  · rintro ⟨hdepth, _⟩
    rw [depth_nested] at hdepth
    exact absurd hdepth (by decide)

/-- Objects from which no entry is read, though all members of one stand there: the member besides them
has a value that is not kept. -/
theorem unkept_member_refused :
    let e : Entry := ⟨.main, .snapshot 3⟩
    e.HasTextTag ∧ "x" ∉ e.names ∧ ∀ value ∈ unkept,
      (Json.ofText? (Json.record (e.members ++ [("x", value)])).render).isSome = true ∧
      (Json.ofText? (Json.record (e.members ++ [("x", value)])).render).bind ofJson? = none := by
  intro e
  have htag : e.HasTextTag := nofun
  have hname : "x" ∉ e.names := by decide
  refine ⟨htag, hname, ?_⟩
  intro value hvalue
  have hforeign : ∀ other ∈ [("x", value)], other.1 ∉ e.names := List.forall_mem_singleton.mpr hname
  have hwell : ∀ other ∈ [("x", value)], other.2.WellFormed :=
    List.forall_mem_singleton.mpr (wellFormed_unkept value hvalue)
  have hrender := Json.ofText?_render (wellFormed_record (e := e) (List.Perm.refl _) hwell)
  rw [ofText?_record hrender, hrender]
  refine ⟨rfl, (ofJson?_record_iff htag hforeign (List.Perm.refl _)).2.mpr ?_⟩
  exact ⟨("x", value), List.mem_singleton_self _, not_keepsInside_unkept value hvalue⟩

end Retrace.Log.Entry
