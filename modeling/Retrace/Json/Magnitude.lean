import Retrace.Json.Value

namespace Retrace.Json

namespace Number

/-- Adds digits to a significand as long as it fits 64 bits; returns the digits left over. -/
def gather (m : Nat) : List Char → Nat × List Char
  | [] => (m, [])
  | c :: rest =>
    let next := 10 * m + Numeral.digitValue c
    if next < UInt64.size then gather next rest else (m, c :: rest)

/-- Significand and power of ten. Digits that do not fit count as zeros before the point, and not at all
after it. -/
def scaled (n : Number) : Nat × Int :=
  let (whole, unread) := gather 0 n.whole
  let (m, ignored) := gather whole n.fraction
  (m, (unread.length : Int) - (n.fraction.length - ignored.length : Nat) + n.exponent.getD 0)

/-- Rounds to 53 significant bits, a tie to the even neighbour. -/
def roundTo53 (n : Nat) : Nat :=
  if n < 1 <<< 53 then n
  else
    let unit := 1 <<< (Nat.log2 n - 52)
    let low := n / unit
    let twice := 2 * (n % unit)
    let up := unit < twice || (twice == unit && low % 2 == 1)
    (if up then low + 1 else low) * unit

/-- A product from this bound on rounds to infinity. -/
def infinityBound : Nat := 1 <<< 1024 - 1 <<< 970

/-- Whether the 64-bit floating-point number is finite: its significand and its power of ten are rounded before
they are multiplied. -/
def isFinite (n : Number) : Bool :=
  let (m, e) := n.scaled
  if m = 0 ∨ e < 0 then true
  else if 308 < e then false
  else roundTo53 m * roundTo53 (Nat.pow 10 e.toNat) < infinityBound

end Number

/-- The depth of nesting from which on a value is not kept. -/
def depthLimit : Nat := 128

mutual

/-- Every string names a text and every number is finite. -/
def isSound : Json → Bool
  | .number n => n.isFinite
  | .string text => text.isSome
  | .array items => areSoundItems items
  | .object members => areSoundMembers members
  | _ => true

def areSoundItems : List Json → Bool
  | [] => true
  | item :: rest => item.isSound && areSoundItems rest

def areSoundMembers : List (Option String × Json) → Bool
  | [] => true
  | (key, item) :: rest => key.isSome && item.isSound && areSoundMembers rest

end

/-- A value that can be kept whole before its meaning is known. -/
def isKeepable (value : Json) : Bool := value.depth < depthLimit && value.isSound

end Retrace.Json
