import Mathlib.Data.List.Perm.Basic
import Retrace.Json.Magnitude
import Retrace.Json.Shape
import Retrace.Proofs.Json.Texts

namespace Retrace.Json

section order

def writtenFields (fields : List (String × Option Json)) : List (String × Json) :=
  fields.filterMap fun (name, value) => value.map (name, ·)

theorem valuesAt_record (name : String) (members : List (String × Json)) :
    valuesAt name (members.map fun member => (some member.1, member.2)) =
      (members.filter (·.1 == name)).map (·.2) := by
  rw [valuesAt, List.filter_map, List.map_map]
  rfl

theorem length_valuesAt (name : String) (members : List (Option String × Json)) :
    (valuesAt name members).length = (members.map (·.1)).count (some name) := by
  rw [valuesAt, List.length_map, List.count, List.countP_map, List.countP_eq_length_filter]
  rfl

theorem filter_eq_nil {name : String} {members : List (String × Json)} (h : name ∉ members.map (·.1)) :
    members.filter (·.1 == name) = [] := by
  rw [List.filter_eq_nil_iff]
  intro member hmem heq
  exact h (List.mem_map.mpr ⟨member, hmem, beq_iff_eq.mp heq⟩)

theorem map_fst_writtenFields_sublist (fields : List (String × Option Json)) :
    ((writtenFields fields).map (·.1)).Sublist (fields.map (·.1)) := by
  induction fields with
  | nil => exact .slnil
  | cons field fields ih =>
    obtain ⟨name, value⟩ := field
    cases value with
    | none => exact ih.cons name
    | some value => exact ih.cons_cons name

theorem filter_writtenFields {fields : List (String × Option Json)} (hnodup : (fields.map (·.1)).Nodup)
    {name : String} {value : Option Json} (h : (name, value) ∈ fields) :
    (writtenFields fields).filter (·.1 == name) = (value.map (name, ·)).toList := by
  induction fields with
  | nil => cases h
  | cons field fields ih =>
    rw [List.map_cons, List.nodup_cons] at hnodup
    obtain ⟨hnew, hnodup⟩ := hnodup
    rcases List.mem_cons.mp h with rfl | hmem
    · have hbehind : (writtenFields fields).filter (·.1 == name) = [] :=
        filter_eq_nil fun hin => hnew ((map_fst_writtenFields_sublist fields).subset hin)
      cases value with
      | none => exact hbehind
      | some value =>
        have hfirst : writtenFields ((name, some value) :: fields) =
            (name, value) :: writtenFields fields := rfl
        rw [hfirst, List.filter_cons, if_pos (beq_self_eq_true name), hbehind]
        rfl
    · obtain ⟨other, first⟩ := field
      have hne : ¬(other == name) = true := by
        rw [beq_iff_eq]
        rintro rfl
        exact hnew (List.mem_map.mpr ⟨_, hmem, rfl⟩)
      rw [← ih hnodup hmem]
      cases first with
      | none => rfl
      | some first => exact List.filter_cons_of_neg hne

variable {fields : List (String × Option Json)} {others members : List (String × Json)}

theorem atMostOne?_record (hnodup : (fields.map (·.1)).Nodup)
    (hothers : ∀ other ∈ others, other.1 ∉ fields.map (·.1))
    (hperm : members.Perm (writtenFields fields ++ others)) {name : String} {value : Option Json}
    (h : (name, value) ∈ fields) :
    atMostOne? name (members.map fun member => (some member.1, member.2)) = some value := by
  have hforeign : others.filter (·.1 == name) = [] := by
    apply filter_eq_nil
    intro hin
    obtain ⟨other, hmem, rfl⟩ := List.mem_map.mp hin
    exact hothers other hmem (List.mem_map.mpr ⟨_, h, rfl⟩)
  have hfound := hperm.filter (·.1 == name)
  rw [List.filter_append, filter_writtenFields hnodup h, hforeign, List.append_nil] at hfound
  rw [atMostOne?, valuesAt_record]
  cases value with
  | none => rw [hfound.eq_nil]; rfl
  | some value => rw [List.perm_singleton.mp hfound]; rfl

/-- In whatever order members stand, and whichever others are between them, each field gets its value. -/
theorem fields?_record (hnodup : (fields.map (·.1)).Nodup)
    (hothers : ∀ other ∈ others, other.1 ∉ fields.map (·.1))
    (hperm : members.Perm (writtenFields fields ++ others)) {wanted : List (String × Option Json)}
    (hwanted : wanted ⊆ fields) :
    (record members).fields? (wanted.map (·.1)) = some (wanted.map (·.2)) := by
  have hkeys : (members.map fun member => (some member.1, member.2)).all (·.1.isSome) = true := by
    simp
  rw [record, fields?, if_pos hkeys]
  induction wanted with
  | nil => rfl
  | cons field wanted ih =>
    obtain ⟨hfield, hbehind⟩ := List.cons_subset.mp hwanted
    rw [List.map_cons, List.mapM_cons, atMostOne?_record hnodup hothers hperm hfield, ih hbehind]
    rfl

theorem allFields?_record (hnodup : (fields.map (·.1)).Nodup)
    (hothers : ∀ other ∈ others, other.1 ∉ fields.map (·.1))
    (hperm : members.Perm (writtenFields fields ++ others)) {wanted : List (String × Json)}
    (hwanted : wanted.map (fun field => (field.1, some field.2)) ⊆ fields) :
    (record members).allFields? (wanted.map (·.1)) = some (wanted.map (·.2)) := by
  have hfields := fields?_record hnodup hothers hperm hwanted
  rw [List.map_map, List.map_map] at hfields
  have hall : (wanted.map fun field => some field.2).mapM id = some (wanted.map (·.2)) := by
    rw [List.mapM_map]
    exact List.mapM_pure
  rw [allFields?]
  exact (congrArg (· >>= _) hfields).trans hall

theorem writtenFields_some (members : List (String × Json)) :
    writtenFields (members.map fun member => (member.1, some member.2)) = members := by
  rw [writtenFields, List.filterMap_map]
  exact List.filterMap_some

theorem fields?_eq_none {names : List String} {name : String} (hname : name ∈ names)
    {members : List (Option String × Json)} (h : 2 ≤ (valuesAt name members).length) :
    (object members).fields? names = none := by
  have hnone : atMostOne? name members = none := by
    rw [atMostOne?]
    split
    · rename_i hempty
      rw [hempty] at h
      cases h
    · rename_i hone
      rw [hone, List.length_singleton] at h
      exact absurd h (by decide)
    · rfl
  rw [fields?]
  split
  · induction names with
    | nil => cases hname
    | cons first names ih =>
      rw [List.mapM_cons]
      rcases List.mem_cons.mp hname with rfl | hbehind
      · rw [hnone]
        rfl
      · rw [ih hbehind]
        cases atMostOne? first members <;> rfl
  · rfl

end order

section keeping

/-- A value that can be kept inside of another. -/
structure KeepsInside (value : Json) : Prop where
  depth_lt : value.depth + 1 < depthLimit
  sound : value.isSound = true

theorem isSound_record (members : List (String × Json)) :
    (record members).isSound = true ↔ ∀ member ∈ members, member.2.isSound = true := by
  rw [record, isSound]
  induction members with
  | nil => exact iff_of_true rfl nofun
  | cons member members ih =>
    rw [List.map_cons, areSoundMembers, List.forall_mem_cons, ← ih, Option.isSome_some, Bool.true_and,
      Bool.and_eq_true]

theorem depth_record_lt (members : List (String × Json)) :
    (record members).depth < depthLimit ↔ ∀ member ∈ members, member.2.depth + 1 < depthLimit := by
  rw [record, depth]
  induction members with
  | nil => exact iff_of_true (by decide) nofun
  | cons member members ih =>
    rw [List.map_cons, depthOfMembers, List.forall_mem_cons, ← ih, ← Nat.add_max_add_right, Nat.max_lt]

/-- An object can be kept whole if each of its values can. -/
theorem isKeepable_record (members : List (String × Json)) :
    (record members).isKeepable = true ↔ ∀ member ∈ members, member.2.KeepsInside := by
  rw [isKeepable, Bool.and_eq_true, decide_eq_true_eq, depth_record_lt, isSound_record]
  constructor
  · rintro ⟨hdepth, hsound⟩ member hmem
    exact ⟨hdepth member hmem, hsound member hmem⟩
  · intro h
    exact ⟨fun member hmem => (h member hmem).depth_lt, fun member hmem => (h member hmem).sound⟩

section magnitude

/-- The number that digits write behind those of `m`. -/
def valueBehind (m : Nat) (cs : List Char) : Nat :=
  cs.foldl (fun n c => 10 * n + Numeral.digitValue c) m

theorem le_valueBehind (m : Nat) (cs : List Char) : m ≤ valueBehind m cs := by
  induction cs generalizing m with
  | nil => exact Nat.le_refl m
  | cons c cs ih => exact Nat.le_trans (by omega) (ih (10 * m + Numeral.digitValue c))

theorem gather_eq {m : Nat} {cs : List Char} (h : valueBehind m cs < UInt64.size) :
    Number.gather m cs = (valueBehind m cs, []) := by
  induction cs generalizing m with
  | nil => rfl
  | cons c cs ih =>
    have hnext := Nat.lt_of_le_of_lt (le_valueBehind (10 * m + Numeral.digitValue c) cs) h
    rw [Number.gather, if_pos hnext]
    exact ih h

theorem scaled_ofNat {n : Nat} (h : n < UInt64.size) : (Number.ofNat n).scaled = (n, 0) := by
  have hvalue : valueBehind 0 (Numeral.digits 10 n) = n := Numeral.value_digits n
  have hgather : Number.gather 0 (Numeral.digits 10 n) = (n, []) := by
    rw [gather_eq (by rw [hvalue]; exact h), hvalue]
  simp only [Number.scaled, Number.ofNat, hgather, Number.gather]
  rfl

theorem roundTo53_le (n : Nat) : Number.roundTo53 n ≤ 2 * n := by
  rw [Number.roundTo53]
  split
  · omega
  · rename_i hlarge
    have hne : n ≠ 0 := by
      rintro rfl
      exact hlarge (by decide)
    have hunit : 1 <<< (n.log2 - 52) ≤ n := by
      rw [Nat.one_shiftLeft]
      exact Nat.le_trans (Nat.pow_le_pow_right (by decide) (Nat.sub_le _ _)) (Nat.log2_self_le hne)
    have hlow := Nat.div_mul_le_self n (1 <<< (n.log2 - 52))
    dsimp only
    generalize 1 <<< (n.log2 - 52) = unit at hunit hlow ⊢
    split
    · rw [Nat.add_mul]
      omega
    · omega

theorem isFinite_ofNat {n : Nat} (h : n < UInt64.size) : (Number.ofNat n).isFinite = true := by
  have hone : Number.roundTo53 (Nat.pow 10 (0 : Int).toNat) = 1 := rfl
  have hround := roundTo53_le n
  have hbound : 2 * UInt64.size ≤ Number.infinityBound := by decide +kernel
  rw [Number.isFinite, scaled_ofNat h]
  split
  · rename_i m e heq
    cases heq
    split
    · rfl
    · rw [if_neg (by decide), decide_eq_true_eq, hone]
      omega

end magnitude

theorem keepsInside_of_flat {value : Json} (hflat : value.depth = 0) (hsound : value.isSound = true) :
    value.KeepsInside where
  depth_lt := by
    rw [hflat]
    decide
  sound := hsound

theorem keepsInside_nat {n : Nat} (h : n < UInt64.size) : (nat n).KeepsInside :=
  keepsInside_of_flat rfl (isFinite_ofNat h)

theorem keepsInside_text (s : String) : (text s).KeepsInside := keepsInside_of_flat rfl rfl

theorem keepsInside_bool (b : Bool) : (bool b).KeepsInside := keepsInside_of_flat rfl rfl

end keeping

section words

theorem below?_nat {n limit : Nat} (h : n < limit) : (nat n).below? limit = some n := by
  rw [nat, below?, Number.toNat?_ofNat]
  exact Option.filter_some_pos (decide_eq_true h)

@[simp] theorem uint32?_nat (w : UInt32) : (nat w.toNat).uint32? = some w := by
  rw [uint32?, below?_nat w.toNat_lt, Option.map_some, UInt32.ofNat_toNat]

@[simp] theorem uint64?_nat (w : UInt64) : (nat w.toNat).uint64? = some w := by
  rw [uint64?, below?_nat w.toNat_lt, Option.map_some, UInt64.ofNat_toNat]

end words

end Retrace.Json
