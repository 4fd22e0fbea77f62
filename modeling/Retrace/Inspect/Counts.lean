namespace Retrace.Inspect

/-- How often each name occurred, in the order in which they first did. -/
abbrev Counts := List (String × Nat)

namespace Counts

def add (name : String) : Counts → Counts
  | [] => [(name, 1)]
  | (key, n) :: rest => if key = name then (key, n + 1) :: rest else (key, n) :: add name rest

def names (counts : Counts) : List String := counts.map (·.1)

def total : Counts → Nat
  | [] => 0
  | (_, n) :: rest => n + total rest

/-- A new name goes to the end; a known one stays where it is. -/
theorem names_add (name : String) (counts : Counts) :
    (add name counts).names =
      if name ∈ counts.names then counts.names else counts.names ++ [name] := by
  induction counts with
  | nil => simp [add, names]
  | cons first rest ih =>
    obtain ⟨key, n⟩ := first
    by_cases h : key = name
    · simp [add, names, h]
    · simp only [names] at ih
      by_cases hmem : name ∈ rest.map (·.1) <;> simp_all [add, names, Ne.symm h]

theorem total_add (name : String) (counts : Counts) : (add name counts).total = counts.total + 1 := by
  induction counts with
  | nil => rfl
  | cons first rest ih =>
    obtain ⟨key, n⟩ := first
    by_cases h : key = name <;> simp [add, total, h, ih] <;> omega

end Counts

end Retrace.Inspect
