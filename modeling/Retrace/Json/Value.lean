import Retrace.Text.Numeral

namespace Retrace

/-- A number literal. A fraction or an exponent that is not written is empty. -/
structure Json.Number where
  negative : Bool
  whole : List Char
  fraction : List Char
  exponent : Option Int
  deriving DecidableEq

/-- A string literal is `none` if one of its escapes is half a surrogate pair. -/
inductive Json
  | null
  | bool (value : Bool)
  | number (value : Json.Number)
  | string (text : Option String)
  | array (items : List Json)
  | object (members : List (Option String × Json))

namespace Json

def Number.ofNat (n : Nat) : Number := ⟨false, Numeral.digits 10 n, [], none⟩

/-- The number of a literal that has digits only. -/
def Number.toNat? (n : Number) : Option Nat :=
  if !n.negative && n.fraction.isEmpty && n.exponent.isNone then some (Numeral.value n.whole) else none

@[simp] theorem Number.toNat?_ofNat (n : Nat) : (Number.ofNat n).toNat? = some n := by
  simp [Number.ofNat, Number.toNat?, Numeral.value_digits]

def nat (n : Nat) : Json := .number (.ofNat n)

def text (s : String) : Json := .string (some s)

/-- An object whose keys are texts. -/
def record (members : List (String × Json)) : Json :=
  .object (members.map fun member => (some member.1, member.2))

mutual

/-- How deep arrays and objects are nested. -/
def depth : Json → Nat
  | .array items => depthOfItems items + 1
  | .object members => depthOfMembers members + 1
  | _ => 0

def depthOfItems : List Json → Nat
  | [] => 0
  | item :: rest => max item.depth (depthOfItems rest)

def depthOfMembers : List (Option String × Json) → Nat
  | [] => 0
  | (_, item) :: rest => max item.depth (depthOfMembers rest)

end

end Json

end Retrace
