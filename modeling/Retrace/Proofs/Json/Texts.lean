import Retrace.Proofs.Json.Literals

namespace Retrace.Json

/-- Each number in a value is a number literal. -/
inductive WellFormed : Json → Prop
  | null : WellFormed .null
  | bool (b : Bool) : WellFormed (.bool b)
  | number {n : Number} (h : n.IsLiteral) : WellFormed (.number n)
  | string (text : Option String) : WellFormed (.string text)
  | array {items : List Json} (h : ∀ item ∈ items, WellFormed item) : WellFormed (.array items)
  | object {members : List (Option String × Json)} (h : ∀ member ∈ members, WellFormed member.2) :
      WellFormed (.object members)

namespace Reader

section values

/-- No blank, and not the bracket by which an empty array is told. -/
def Opens (c : Char) : Prop := isBlank c = false ∧ c ≠ ']'

theorem opens_of_isDigit {c : Char} (h : c.isDigit = true) : Opens c := by
  constructor
  · rw [← Bool.not_eq_true]
    intro hblank
    simp only [isBlank, Bool.or_eq_true, beq_iff_eq] at hblank
    rcases hblank with ((rfl | rfl) | rfl) | rfl <;> cases h
  · rintro rfl
    cases h

theorem opens_of_number {c : Char} (h : c = '-' ∨ c.isDigit = true) : Opens c := by
  rcases h with rfl | h
  · exact ⟨rfl, by decide⟩
  · exact opens_of_isDigit h

theorem skipBlank_of_opens {c : Char} (h : Opens c) (cs : List Char) :
    skipBlank (c :: cs) = c :: cs := List.dropWhile_cons_of_neg (Bool.eq_false_iff.mp h.1)

theorem exists_compact {value : Json} (h : value.WellFormed) :
    ∃ c cs, value.compact = c :: cs ∧ Opens c := by
  cases h with
  | null => exact ⟨_, _, rfl, rfl, by decide⟩
  | bool b => cases b <;> exact ⟨_, _, rfl, rfl, by decide⟩
  | number h =>
    obtain ⟨c, cs, hwritten, hfirst⟩ := exists_written h
    exact ⟨c, cs, hwritten, opens_of_number hfirst⟩
  | string text => exact ⟨_, _, rfl, rfl, by decide⟩
  | @array items h => cases items <;> exact ⟨_, _, rfl, rfl, by decide⟩
  | @object members h =>
    cases members with
    | nil => exact ⟨_, _, rfl, rfl, by decide⟩
    | cons member members => exact ⟨_, _, rfl, rfl, by decide⟩

section openings

variable (fuel : Nat) (cs : List Char)

theorem value?_number {c : Char} (h : c = '-' ∨ c.isDigit = true) :
    value? (fuel + 1) (c :: cs) = (number? (c :: cs)).map fun (n, rest) => (.number n, rest) := by
  rw [value?, skipBlank_of_opens (opens_of_number h)]
  split <;> simp_all

theorem value?_string :
    value? (fuel + 1) ('"' :: cs) = (literal? cs).map fun (text, rest) => (.string text, rest) := by
  rw [value?]
  rfl

theorem value?_array {c : Char} (h : Opens c) :
    value? (fuel + 1) ('[' :: c :: cs) =
      (items? fuel (c :: cs)).map fun (items, rest) => (.array items, rest) := by
  have hskip : skipBlank ('[' :: c :: cs) = '[' :: c :: cs := rfl
  simp only [value?, hskip, skipBlank_of_opens h]
  split
  · rename_i behind heq
    exact absurd (List.cons.inj heq).1 h.2
  · rfl

theorem value?_object :
    value? (fuel + 1) ('{' :: '"' :: cs) =
      (members? fuel ('"' :: cs)).map fun (members, rest) => (.object members, rest) := by
  rw [value?]
  rfl

end openings

/-- A value is read from its compact text, whatever ends it. The length of the text is fuel enough. -/
def ReadsBack (value : Json) : Prop :=
  ∀ (fuel : Nat) (rest : List Char), value.compact.length ≤ fuel → EndsNumber rest →
    value? fuel (value.compact ++ rest) = some (value, rest)

theorem endsNumber_items (items : List Json) (rest : List Char) :
    EndsNumber (compactItems items ++ rest) := by
  cases items with
  | nil =>
    rintro c ⟨⟩
    decide
  | cons item items =>
    rintro c ⟨⟩
    decide

theorem endsNumber_members (members : List (Option String × Json)) (rest : List Char) :
    EndsNumber (compactMembers members ++ rest) := by
  cases members with
  | nil =>
    rintro c ⟨⟩
    decide
  | cons member members =>
    rintro c ⟨⟩
    decide

section sequences

variable {fuel : Nat} {cs rest behind : List Char} {item : Json}

theorem items?_last (h : value? fuel cs = some (item, ']' :: rest)) :
    items? (fuel + 1) cs = some ([item], rest) := by
  rw [items?, h]
  rfl

theorem items?_next {items : List Json} (h : value? fuel cs = some (item, ',' :: rest))
    (hrest : items? fuel rest = some (items, behind)) :
    items? (fuel + 1) cs = some (item :: items, behind) := by
  have hcomma : skipBlank (',' :: rest) = ',' :: rest := rfl
  simp only [items?, h, hcomma, hrest, bind, Option.bind_some, pure]

variable (key : Option String)

theorem members?_eq (fuel : Nat) (cs : List Char) :
    members? (fuel + 1) (literal key ++ ':' :: cs) =
      (value? fuel cs).bind fun (item, rest) =>
        match skipBlank rest with
        | ',' :: rest => (members? fuel rest).map fun (members, rest) => ((key, item) :: members, rest)
        | '}' :: rest => some ([(key, item)], rest)
        | _ => none := by
  have hquote (cs : List Char) : skipBlank ('"' :: cs) = '"' :: cs := rfl
  have hcolon : skipBlank (':' :: cs) = ':' :: cs := rfl
  simp only [literal, List.cons_append, List.append_assoc, List.nil_append, members?, hquote,
    literal?_literalBody, hcolon, bind, Option.bind_some, pure, Option.map_eq_bind]
  rfl

theorem members?_last (h : value? fuel cs = some (item, '}' :: rest)) :
    members? (fuel + 1) (literal key ++ ':' :: cs) = some ([(key, item)], rest) := by
  rw [members?_eq, h]
  rfl

theorem members?_next {members : List (Option String × Json)}
    (h : value? fuel cs = some (item, ',' :: rest))
    (hrest : members? fuel rest = some (members, behind)) :
    members? (fuel + 1) (literal key ++ ':' :: cs) = some ((key, item) :: members, behind) := by
  have hcomma : skipBlank (',' :: rest) = ',' :: rest := rfl
  rw [members?_eq, h, Option.bind_some]
  simp only [hcomma, hrest, Option.map_some]

end sequences

theorem items?_compact {items : List Json} {item : Json}
    (h : ∀ value ∈ item :: items, ReadsBack value) {fuel : Nat}
    (hfuel : item.compact.length + (compactItems items).length ≤ fuel) (rest : List Char) :
    items? fuel (item.compact ++ (compactItems items ++ rest)) = some (item :: items, rest) := by
  induction items generalizing item fuel with
  | nil =>
    rw [compactItems, List.length_singleton] at hfuel
    obtain ⟨fuel, rfl⟩ : ∃ n, fuel = n + 1 := Nat.exists_eq_add_one.mpr (by omega)
    exact items?_last (h item List.mem_cons_self fuel _ (by omega) (endsNumber_items [] rest))
  | cons next items ih =>
    rw [compactItems, List.length_cons, List.length_append] at hfuel
    obtain ⟨hitem, hbehind⟩ := List.forall_mem_cons.mp h
    obtain ⟨fuel, rfl⟩ : ∃ n, fuel = n + 1 := Nat.exists_eq_add_one.mpr (by omega)
    have hread := hitem fuel _ (by omega) (endsNumber_items (next :: items) rest)
    have hless : next.compact.length + (compactItems items).length ≤ fuel := by omega
    have hrest := ih hbehind hless
    rw [← List.append_assoc] at hrest
    exact items?_next hread hrest

theorem members?_compact {members : List (Option String × Json)} {key : Option String} {item : Json}
    (h : ∀ member ∈ (key, item) :: members, ReadsBack member.2) {fuel : Nat}
    (hfuel : item.compact.length + (compactMembers members).length ≤ fuel) (rest : List Char) :
    members? fuel (literal key ++ ':' :: (item.compact ++ (compactMembers members ++ rest))) =
      some ((key, item) :: members, rest) := by
  induction members generalizing key item fuel with
  | nil =>
    rw [compactMembers, List.length_singleton] at hfuel
    have hitem : ReadsBack item := h (key, item) List.mem_cons_self
    obtain ⟨fuel, rfl⟩ : ∃ n, fuel = n + 1 := Nat.exists_eq_add_one.mpr (by omega)
    exact members?_last key (hitem fuel _ (by omega) (endsNumber_members [] rest))
  | cons next members ih =>
    obtain ⟨name, value⟩ := next
    rw [compactMembers, List.length_cons, List.length_append, List.length_cons,
      List.length_append] at hfuel
    have hitem : ReadsBack item := h (key, item) List.mem_cons_self
    have hbehind := (List.forall_mem_cons.mp h).2
    obtain ⟨fuel, rfl⟩ : ∃ n, fuel = n + 1 := Nat.exists_eq_add_one.mpr (by omega)
    have hread := hitem fuel _ (by omega) (endsNumber_members ((name, value) :: members) rest)
    have hless : value.compact.length + (compactMembers members).length ≤ fuel := by omega
    have hrest := ih hbehind hless
    rw [compactMembers, List.cons_append, List.append_assoc, List.cons_append,
      List.append_assoc] at hread ⊢
    exact members?_next key hread hrest

theorem exists_fuel {c : Char} {cs : List Char} {fuel : Nat} (h : (c :: cs).length ≤ fuel) :
    ∃ n, fuel = n + 1 ∧ cs.length ≤ n :=
  ⟨fuel - 1, by rw [List.length_cons] at h; omega, by rw [List.length_cons] at h; omega⟩

theorem readsBack_number {n : Number} (h : n.IsLiteral) : ReadsBack (.number n) := by
  intro fuel rest hfuel hrest
  obtain ⟨c, cs, hwritten, hfirst⟩ := exists_written h
  have hread := number?_written h hrest
  rw [compact, hwritten] at hfuel ⊢
  rw [hwritten, List.cons_append] at hread
  obtain ⟨fuel, rfl, -⟩ := exists_fuel hfuel
  rw [List.cons_append, value?_number fuel _ hfirst, hread]
  rfl

theorem readsBack_string (text : Option String) : ReadsBack (.string text) := by
  intro fuel rest hfuel _
  obtain ⟨fuel, rfl, -⟩ := exists_fuel hfuel
  rw [compact, literal, List.cons_append, List.append_assoc, List.singleton_append, value?_string,
    literal?_literalBody]
  rfl

theorem readsBack_array {items : List Json} (h : ∀ item ∈ items, item.WellFormed)
    (hitems : ∀ item ∈ items, ReadsBack item) : ReadsBack (.array items) := by
  intro fuel rest hfuel _
  cases items with
  | nil =>
    obtain ⟨fuel, rfl, -⟩ := exists_fuel hfuel
    rw [value?]
    rfl
  | cons item items =>
    rw [compact] at hfuel
    obtain ⟨fuel, rfl, hbehind⟩ := exists_fuel hfuel
    rw [List.length_append] at hbehind
    obtain ⟨c, cs, hcompact, hopens⟩ := exists_compact (h item List.mem_cons_self)
    have hread := items?_compact hitems hbehind rest
    rw [compact, List.cons_append, List.append_assoc]
    rw [hcompact, List.cons_append] at hread ⊢
    rw [value?_array fuel _ hopens, hread]
    rfl

theorem readsBack_object {members : List (Option String × Json)}
    (hmembers : ∀ member ∈ members, ReadsBack member.2) : ReadsBack (.object members) := by
  intro fuel rest hfuel _
  cases members with
  | nil =>
    obtain ⟨fuel, rfl, -⟩ := exists_fuel hfuel
    rw [value?]
    rfl
  | cons member members =>
    obtain ⟨key, item⟩ := member
    rw [compact] at hfuel
    obtain ⟨fuel, rfl, hbehind⟩ := exists_fuel hfuel
    rw [List.length_append, List.length_cons, List.length_append] at hbehind
    have hless : item.compact.length + (compactMembers members).length ≤ fuel := by omega
    have hread := members?_compact hmembers hless rest
    rw [compact, List.cons_append, List.append_assoc, List.cons_append, List.append_assoc]
    rw [literal, List.cons_append] at hread ⊢
    rw [value?_object, hread]
    rfl

theorem readsBack {value : Json} (h : value.WellFormed) : ReadsBack value := by
  induction h with
  | null =>
    intro fuel rest hfuel _
    obtain ⟨fuel, rfl, -⟩ := exists_fuel hfuel
    rw [value?]
    rfl
  | bool b =>
    intro fuel rest hfuel _
    cases b with
    | false =>
      obtain ⟨fuel, rfl, -⟩ := exists_fuel hfuel
      rw [value?]
      rfl
    | true =>
      obtain ⟨fuel, rfl, -⟩ := exists_fuel hfuel
      rw [value?]
      rfl
  | number h => exact readsBack_number h
  | string text => exact readsBack_string text
  | array h ih => exact readsBack_array h ih
  | object h ih => exact readsBack_object ih

end values

end Reader

section records

theorem wellFormed_nat (n : Nat) : (nat n).WellFormed := .number (Number.isLiteral_ofNat n)

theorem wellFormed_text (s : String) : (text s).WellFormed := .string s

theorem wellFormed_record {members : List (String × Json)}
    (h : ∀ member ∈ members, member.2.WellFormed) : (record members).WellFormed := by
  apply WellFormed.object
  rintro _ hmem
  obtain ⟨member, hmember, rfl⟩ := List.mem_map.mp hmem
  exact h member hmember

end records

/-- Reading undoes writing. -/
theorem ofText?_render {value : Json} (h : value.WellFormed) : ofText? value.render = some value := by
  have hread := Reader.readsBack h (value.compact.length + 1) [] (Nat.le_succ _) nofun
  rw [List.append_nil] at hread
  rw [ofText?, render, String.toList_ofList, ofChars?, hread]
  rfl

end Retrace.Json
