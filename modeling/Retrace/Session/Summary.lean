import Retrace.Mode
import Retrace.Json.Writer

namespace Retrace

/-- How often a replay differed from its log without being stopped. -/
structure Divergence where
  /-- Register images that were not the recorded ones. -/
  guestState : Nat := 0
  dispatchCounter : Nat := 0
  deriving DecidableEq, Inhabited

namespace Divergence

/-- All differences, in a 64-bit word. -/
def total (d : Divergence) : UInt64 := UInt64.ofNat (d.guestState + d.dispatchCounter)

def toJson (d : Divergence) : Json :=
  .record [("guest_state", .nat d.guestState), ("dispatch_counter", .nat d.dispatchCounter)]

def ofJson? (value : Json) : Option Divergence := do
  match ← (← value.allFields? ["guest_state", "dispatch_counter"]).mapM Json.size? with
  | [guestState, dispatchCounter] => return { guestState, dispatchCounter }
  | _ => none

end Divergence

/-- What a session did, told when it is closed. -/
structure Summary where
  mode : Mode
  /-- How many entries were written or read. -/
  entries : Nat
  divergence : Divergence
  deriving DecidableEq

namespace Summary

def toJson (s : Summary) : Json :=
  .record
    [("mode", s.mode.toJson), ("entries", .nat s.entries), ("divergence", s.divergence.toJson)]

def ofJson? (value : Json) : Option Summary := do
  match ← value.allFields? ["mode", "entries", "divergence"] with
  | [mode, entries, divergence] =>
    return ⟨← Mode.ofJson? mode, ← entries.size?, ← Divergence.ofJson? divergence⟩
  | _ => none

def render (s : Summary) : String := s.toJson.render

end Summary

end Retrace
