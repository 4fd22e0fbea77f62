import Retrace.Json.Value

namespace Retrace.Json

/-- A number without sign, fraction or exponent below a limit. -/
def below? (limit : Nat) : Json → Option Nat
  | .number n => n.toNat?.filter (· < limit)
  | _ => none

def uint16? (value : Json) : Option UInt16 := (value.below? UInt16.size).map UInt16.ofNat

def uint32? (value : Json) : Option UInt32 := (value.below? UInt32.size).map UInt32.ofNat

def uint64? (value : Json) : Option UInt64 := (value.below? UInt64.size).map UInt64.ofNat

/-- A count or a position that fits a 64-bit word. -/
def size? (value : Json) : Option Nat := value.below? UInt64.size

def bool? : Json → Option Bool
  | .bool b => some b
  | _ => none

def text? : Json → Option String
  | .string text => text
  | _ => none

def items? : Json → Option (List Json)
  | .array items => some items
  | _ => none

/-- The name of a choice without data: a string, or an object with that one key and `null`. -/
def choice? : Json → Option String
  | .string text => text
  | .object [(key, .null)] => key
  | _ => none

/-- The values under a key, in order. -/
def valuesAt (name : String) (members : List (Option String × Json)) : List Json :=
  (members.filter fun member => member.1 == some name).map (·.2)

/-- The value under a key that is written at most once. -/
def atMostOne? (name : String) (members : List (Option String × Json)) : Option (Option Json) :=
  match valuesAt name members with
  | [] => some none
  | [value] => some (some value)
  | _ => none

/-- What a record gives each of its fields. In an object unknown members are passed over, and
known ones come at most once; in an array the fields stand in order. -/
def fields? (names : List String) : Json → Option (List (Option Json))
  | .object members =>
    if members.all (·.1.isSome) then names.mapM fun name => atMostOne? name members else none
  | .array items =>
    if items.length ≤ names.length then
      some (items.map some ++ List.replicate (names.length - items.length) none)
    else none
  | _ => none

/-- The fields of a record that needs all of them. -/
def allFields? (names : List String) (value : Json) : Option (List Json) := do
  (← value.fields? names).mapM id

end Retrace.Json
