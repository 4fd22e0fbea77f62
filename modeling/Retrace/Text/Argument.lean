namespace Retrace.Argument

/-- What is left of a text after its given front. -/
def after? : List Char → List Char → Option (List Char)
  | [], cs => some cs
  | p :: front, c :: cs => if p = c then after? front cs else none
  | _ :: _, [] => none

theorem after?_eq_some_iff {front cs rest : List Char} :
    after? front cs = some rest ↔ cs = front ++ rest := by
  induction front generalizing cs with
  | nil => simp [after?, eq_comm]
  | cons p front ih =>
    cases cs with
    | nil => simp [after?]
    | cons c cs =>
      by_cases h : p = c
      · simp [after?, h, ih]
      · simp [after?, h, Ne.symm h]

/-- What stands behind a given front of an argument. -/
def behind? (front arg : String) : Option String :=
  (after? front.toList arg.toList).map String.ofList

/-- What stands behind a name and an equals sign. -/
def value? (name arg : String) : Option String := behind? (name ++ "=") arg

def startsWithDash (arg : String) : Bool := arg.toList.head? == some '-'

end Retrace.Argument
