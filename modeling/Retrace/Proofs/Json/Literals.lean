import Retrace.Json.Reader
import Retrace.Json.Writer
import Retrace.Proofs.Text.Runs

namespace Retrace.Json

/-- A number as it may be written: digits with no zero in front of others, and digits behind a point. -/
structure Number.IsLiteral (n : Number) : Prop where
  whole_ne_nil : n.whole ≠ []
  whole_isDigit : ∀ c ∈ n.whole, c.isDigit = true
  zero_alone : n.whole.head? = some '0' → n.whole = ['0']
  fraction_isDigit : ∀ c ∈ n.fraction, c.isDigit = true

namespace Reader

section strings

theorem hexValue?_hexDigit {d : Nat} (h : d < 16) : hexValue? (Bytes.hexDigit d) = some d := by
  have hall : ∀ d < 16, hexValue? (Bytes.hexDigit d) = some d := by decide
  exact hall d h

theorem hexQuad?_hexDigit {n : Nat} (h : n < 256) :
    hexQuad? '0' '0' (Bytes.hexDigit (n / 16)) (Bytes.hexDigit (n % 16)) = some n := by
  have hzero : hexValue? '0' = some 0 := rfl
  rw [hexQuad?, hzero, hexValue?_hexDigit (show n / 16 < 16 by omega),
    hexValue?_hexDigit (show n % 16 < 16 by omega)]
  apply congrArg some
  omega

/-- However a character is written, it is read as one unit. -/
theorem units?_escape (c : Char) (cs : List Char) :
    units? (escape c ++ cs) = (units? cs).map fun (units, rest) => (c.toNat :: units, rest) := by
  fun_cases escape c with
  | case8 =>
    rename_i hcontrol
    rw [List.cons_append, List.cons_append, List.cons_append, List.cons_append, List.cons_append,
      List.cons_append, List.nil_append, units?, hexQuad?_hexDigit (by omega)]
    cases units? cs <;> rfl
  | case9 hquote hbackslash _ _ _ _ _ hprinted =>
    rw [List.singleton_append, units?, if_neg hprinted]
    · cases units? cs <;> rfl
    · exact hquote
    · exact fun _ _ _ _ _ h _ => hbackslash h
    · exact fun _ _ h _ => hbackslash h
  | _ =>
    rename_i hchar
    subst hchar
    cases h : units? cs <;> simp [units?, escaped?, h]

theorem joinPairs?_toNat (cs : List Char) : joinPairs? (cs.map Char.toNat) = some cs := by
  induction cs with
  | nil => rfl
  | cons c cs ih =>
    have hvalid : c.toNat < 0xD800 ∨ 0xDFFF < c.toNat ∧ c.toNat < 0x110000 := c.valid
    rw [List.map_cons, joinPairs?.eq_def]
    dsimp only
    rw [if_neg (by omega), if_neg (by omega), ih, Char.ofNat_toNat, Option.map_some]

theorem units?_flatMap_escape (cs rest : List Char) :
    units? (cs.flatMap escape ++ '"' :: rest) = some (cs.map Char.toNat, rest) := by
  induction cs with
  | nil => rw [List.flatMap_nil, List.nil_append, units?, List.map_nil]
  | cons c cs ih =>
    rw [List.flatMap_cons, List.append_assoc, units?_escape, ih]
    rfl

/-- Whatever its characters, a string is read back from its escaped form. -/
theorem literal?_literalBody (text : Option String) (rest : List Char) :
    literal? (literalBody text ++ '"' :: rest) = some (text, rest) := by
  cases text with
  | none => rfl
  | some text =>
    rw [literal?, literalBody, units?_flatMap_escape, Option.map_some]
    dsimp only
    rw [joinPairs?_toNat, Option.map_some, String.ofList_toList]

end strings

section numbers

/-- Nothing stands next with which a number could go on. -/
def EndsNumber (rest : List Char) : Prop :=
  ∀ c ∈ rest.head?, c.isDigit = false ∧ c ≠ '.' ∧ c ≠ 'e' ∧ c ≠ 'E'

def fractionText : List Char → List Char
  | [] => []
  | c :: digits => '.' :: c :: digits

def exponentText : Option Int → List Char
  | none => []
  | some e => 'e' :: ((if e < 0 then ['-'] else []) ++ Numeral.digits 10 e.natAbs)

theorem written_eq (n : Number) :
    n.written = (if n.negative then ['-'] else []) ++
      (n.whole ++ (fractionText n.fraction ++ exponentText n.exponent)) := by
  obtain ⟨negative, whole, fraction, exponent⟩ := n
  cases fraction <;> cases exponent <;> simp [Number.written, fractionText, exponentText]

theorem whole?_append {n : Number} (h : n.IsLiteral) {rest : List Char}
    (hrest : ∀ c ∈ rest.head?, c.isDigit = false) :
    whole? (n.whole ++ rest) = some (n.whole, rest) := by
  obtain ⟨c, cs, hwhole⟩ := List.exists_cons_of_ne_nil h.whole_ne_nil
  by_cases hzero : c = '0'
  · have halone : n.whole = ['0'] := h.zero_alone (by rw [hwhole, hzero]; rfl)
    rw [halone]
    cases rest with
    | nil => rfl
    | cons c rest =>
      rw [List.singleton_append, whole?, if_neg (Bool.eq_false_iff.mp (hrest c rfl))]
  · have hne : ∀ c' cs', n.whole ++ rest = '0' :: c' :: cs' → False := by
      intro c' cs' heq
      rw [hwhole] at heq
      exact hzero (List.cons.inj heq).1
    rw [whole?.eq_2 _ hne, Run.takeWhile_append h.whole_isDigit hrest,
      Run.dropWhile_append h.whole_isDigit hrest, hwhole]

theorem fraction?_append {digits rest : List Char} (hdigits : ∀ c ∈ digits, c.isDigit = true)
    (hrest : ∀ c ∈ rest.head?, c.isDigit = false ∧ c ≠ '.') :
    fraction? (fractionText digits ++ rest) = some (digits, rest) := by
  cases digits with
  | nil =>
    rw [fractionText, List.nil_append, fraction?]
    rintro behind rfl
    exact (hrest '.' rfl).2 rfl
  | cons c digits =>
    have hend : ∀ c ∈ rest.head?, c.isDigit = false := fun c hc => (hrest c hc).1
    rw [fractionText, List.cons_append, fraction?, Run.takeWhile_append hdigits hend,
      Run.dropWhile_append hdigits hend]

theorem sign_digit {c : Char} (h : c.isDigit = true) (cs : List Char) :
    sign (c :: cs) = (false, c :: cs) := by
  rw [sign]
  · rintro rest ⟨⟩
    cases h
  · rintro rest ⟨⟩
    cases h

theorem exponentOf?_append (e : Int) {rest : List Char}
    (hrest : ∀ c ∈ rest.head?, c.isDigit = false) :
    exponentOf? ((if e < 0 then ['-'] else []) ++ Numeral.digits 10 e.natAbs ++ rest) =
      some (some e, rest) := by
  obtain ⟨c, cs, hcons⟩ := Numeral.digits_eq_cons 10 e.natAbs
  have hvalue := Numeral.value_digits e.natAbs
  have hdigits := Numeral.isDigit_of_mem_digits e.natAbs
  rw [hcons] at hvalue hdigits ⊢
  have hsign : sign ((if e < 0 then ['-'] else []) ++ (c :: cs) ++ rest) =
      (decide (e < 0), (c :: cs) ++ rest) := by
    by_cases hneg : e < 0
    · rw [if_pos hneg, decide_eq_true hneg]
      rfl
    · rw [if_neg hneg, decide_eq_false hneg, List.nil_append, List.cons_append,
        sign_digit (hdigits c List.mem_cons_self)]
  have hsize : (if decide (e < 0) = true then -(e.natAbs : Int) else e.natAbs) = e := by
    simp only [decide_eq_true_eq]
    split <;> omega
  rw [exponentOf?, hsign]
  dsimp only
  rw [Run.takeWhile_append hdigits hrest, Run.dropWhile_append hdigits hrest]
  dsimp only
  rw [hvalue, hsize]

theorem exponent?_append (e : Option Int) {rest : List Char} (hrest : EndsNumber rest) :
    exponent? (exponentText e ++ rest) = some (e, rest) := by
  cases e with
  | none =>
    rw [exponentText, List.nil_append, exponent?]
    · rintro behind rfl
      exact (hrest 'e' rfl).2.2.1 rfl
    · rintro behind rfl
      exact (hrest 'E' rfl).2.2.2 rfl
  | some e =>
    rw [exponentText, List.cons_append, exponent?, exponentOf?_append e fun c hc => (hrest c hc).1]

theorem head_exponentText (e : Option Int) {rest : List Char} (hrest : EndsNumber rest) :
    ∀ c ∈ (exponentText e ++ rest).head?, c.isDigit = false ∧ c ≠ '.' := by
  cases e with
  | none => exact fun c hc => ⟨(hrest c hc).1, (hrest c hc).2.1⟩
  | some e =>
    rintro c ⟨⟩
    decide

theorem head_fractionText (digits : List Char) {rest : List Char}
    (hrest : ∀ c ∈ rest.head?, c.isDigit = false) :
    ∀ c ∈ (fractionText digits ++ rest).head?, c.isDigit = false := by
  cases digits with
  | nil => exact hrest
  | cons c digits =>
    rintro c ⟨⟩
    rfl

variable {n : Number} (h : n.IsLiteral)
include h

theorem unsigned?_append (negative : Bool) {rest : List Char} (hrest : EndsNumber rest) :
    unsigned? negative (n.whole ++ (fractionText n.fraction ++ (exponentText n.exponent ++ rest))) =
      some ({ n with negative := negative }, rest) := by
  have hexponent := head_exponentText n.exponent hrest
  have hfraction := head_fractionText n.fraction fun c hc => (hexponent c hc).1
  simp only [unsigned?, whole?_append h hfraction, fraction?_append h.fraction_isDigit hexponent,
    exponent?_append n.exponent hrest, bind, Option.bind_some, pure]

theorem exists_whole : ∃ c cs, n.whole = c :: cs ∧ c.isDigit = true := by
  obtain ⟨c, cs, hwhole⟩ := List.exists_cons_of_ne_nil h.whole_ne_nil
  exact ⟨c, cs, hwhole, h.whole_isDigit c (by rw [hwhole]; exact List.mem_cons_self)⟩

theorem exists_written : ∃ c cs, n.written = c :: cs ∧ (c = '-' ∨ c.isDigit = true) := by
  obtain ⟨c, cs, hwhole, hdigit⟩ := exists_whole h
  rw [written_eq]
  split
  · exact ⟨'-', _, rfl, .inl rfl⟩
  · exact ⟨c, cs ++ _, by rw [hwhole]; rfl, .inr hdigit⟩

/-- A number is read back from its digits, its point and its exponent, if nothing behind it could go on with
it. -/
theorem number?_written {rest : List Char} (hrest : EndsNumber rest) :
    number? (n.written ++ rest) = some (n, rest) := by
  rw [written_eq]
  simp only [List.append_assoc]
  by_cases hneg : n.negative = true
  · rw [if_pos hneg, List.singleton_append, number?, unsigned?_append h true hrest, ← hneg]
  · rw [if_neg hneg, List.nil_append, number?, unsigned?_append h false hrest,
      ← Bool.eq_false_iff.mpr hneg]
    obtain ⟨c, cs, hwhole, hdigit⟩ := exists_whole h
    rw [hwhole]
    rintro behind ⟨⟩
    cases hdigit

end numbers

end Reader

theorem digits_of_head {n : Nat} (h : (Numeral.digits 10 n).head? = some '0') :
    Numeral.digits 10 n = ['0'] := by
  induction n using Nat.strongRecOn with
  | ind n ih =>
    by_cases hsmall : n < 10
    · rw [Numeral.digits_of_lt hsmall] at h ⊢
      exact congrArg (· :: []) (Option.some.inj h)
    · rw [Numeral.digits_of_le (by decide) (by omega)] at h
      obtain ⟨c, cs, hcons⟩ := Numeral.digits_eq_cons 10 (n / 10)
      rw [hcons, List.cons_append] at h
      have hfront := ih (n / 10) (by omega) (by rw [hcons]; exact h)
      have hvalue := Numeral.value_digits (n / 10)
      rw [hfront] at hvalue
      have hzero : n / 10 = 0 := hvalue.symm
      omega

theorem Number.isLiteral_ofNat (n : Nat) : (ofNat n).IsLiteral where
  whole_ne_nil := by
    obtain ⟨c, cs, hcons⟩ := Numeral.digits_eq_cons 10 n
    rw [ofNat, hcons]
    exact List.cons_ne_nil c cs
  whole_isDigit := Numeral.isDigit_of_mem_digits n
  zero_alone := digits_of_head
  fraction_isDigit := nofun

end Retrace.Json
