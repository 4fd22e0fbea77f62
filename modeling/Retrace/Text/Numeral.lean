namespace Retrace.Numeral

/-- The digit of a number below sixteen, letters in upper case. -/
def digit (d : Nat) : Char :=
  if d < 10 then Char.ofNat (48 + d) else Char.ofNat (55 + d)

/-- The digits of `n`, most significant first and without leading zeros. -/
def digits (base n : Nat) : List Char :=
  if n < base ∨ base < 2 then [digit n] else digits base (n / base) ++ [digit (n % base)]
termination_by n
decreasing_by exact Nat.div_lt_self (by omega) (by omega)

def decimal (n : Nat) : String := String.ofList (digits 10 n)

def hex (n : Nat) : String := String.ofList (digits 16 n)

/-- Hexadecimal with zeros in front up to `width` digits. -/
def paddedHex (width n : Nat) : String := String.ofList ((digits 16 n).leftpad width '0')

def digitValue (c : Char) : Nat := c.toNat - 48

/-- The number that decimal digits write. -/
def value (cs : List Char) : Nat :=
  cs.foldl (fun n c => 10 * n + digitValue c) 0

/-- The number a text of decimal digits writes, after one plus sign if there is any. -/
def ofText? (text : String) : Option Nat :=
  let cs := match text.toList with
    | '+' :: rest => rest
    | cs => cs
  if cs.isEmpty || !cs.all Char.isDigit then none else some (value cs)

theorem digits_of_lt {base n : Nat} (h : n < base) : digits base n = [digit n] := by
  rw [digits, if_pos (.inl h)]

theorem digits_of_le {base n : Nat} (hbase : 2 ≤ base) (h : base ≤ n) :
    digits base n = digits base (n / base) ++ [digit (n % base)] := by
  rw [digits, if_neg (by omega)]

theorem digitValue_digit {d : Nat} (h : d < 10) : digitValue (digit d) = d := by
  have hall : ∀ d < 10, digitValue (digit d) = d := by decide
  exact hall d h

theorem value_append_singleton (cs : List Char) (c : Char) :
    value (cs ++ [c]) = 10 * value cs + digitValue c := by
  simp [value]

theorem value_digits (n : Nat) : value (digits 10 n) = n := by
  induction n using Nat.strongRecOn with
  | ind n ih =>
    by_cases h : n < 10
    · rw [digits_of_lt h]
      simp [value, digitValue_digit h]
    · rw [digits_of_le (by decide) (by omega), value_append_singleton, ih _ (by omega),
        digitValue_digit (by omega)]
      omega

theorem isDigit_digit {d : Nat} (h : d < 10) : (digit d).isDigit = true := by
  have hall : ∀ d < 10, (digit d).isDigit = true := by decide
  exact hall d h

theorem digits_eq_cons (base n : Nat) : ∃ c cs, digits base n = c :: cs := by
  apply List.exists_cons_of_ne_nil
  rw [digits]
  split
  · exact List.cons_ne_nil _ _
  · exact List.concat_ne_nil _ _

theorem forall_mem_digits {base : Nat} {p : Char → Prop} (hbase : 2 ≤ base)
    (h : ∀ d < base, p (digit d)) (n : Nat) : ∀ c ∈ digits base n, p c := by
  induction n using Nat.strongRecOn with
  | ind n ih =>
    by_cases hn : n < base
    · rw [digits_of_lt hn]
      simpa using h n hn
    · rw [digits_of_le hbase (by omega)]
      intro c hc
      rcases List.mem_append.mp hc with hc | hc
      · exact ih _ (Nat.div_lt_self (by omega) hbase) c hc
      · rw [List.mem_singleton.mp hc]
        exact h _ (Nat.mod_lt n (by omega))

theorem not_mem_digits {base : Nat} {c : Char} (hbase : 2 ≤ base) (h : ∀ d < base, digit d ≠ c) (n : Nat) :
    c ∉ digits base n := by
  have hne : ∀ d ∈ digits base n, d ≠ c := forall_mem_digits hbase h n
  exact fun hmem => hne c hmem rfl

theorem isDigit_of_mem_digits (n : Nat) : ∀ c ∈ digits 10 n, c.isDigit = true :=
  forall_mem_digits (by decide) (fun _ => isDigit_digit) n

end Retrace.Numeral
