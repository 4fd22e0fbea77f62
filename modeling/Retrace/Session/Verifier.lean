import Retrace.Session.Error
import Retrace.Session.Warning

namespace Retrace

/-- Compares register images and counts the comparisons that found a difference. -/
structure Verifier where
  layout : Guest.RegisterLayout
  /-- How many diverging comparisons are reported field by field. -/
  reportLimit : UInt64
  diverged : Nat := 0

namespace Verifier

/-- An image must hold every field of the layout. -/
def checkLength (v : Verifier) (live : Bytes) : Except SessionError Unit :=
  if live.length < v.layout.minLength then .error (.stateTooShort live.length v.layout.minLength)
  else .ok ()

/-- Room for the recorded image. -/
def scratch (length : Nat) : Bytes := Bytes.zeros length

/-- The fields that differ, what is reported of them, and the verifier afterwards. -/
def compare (v : Verifier) (thread : ThreadId) (live recorded : Bytes) :
    List Guest.FieldMismatch × List Warning × Verifier :=
  let mismatches := v.layout.diff live recorded
  if mismatches.isEmpty then ([], [], v)
  else
    let warnings := if v.diverged < v.reportLimit.toNat then mismatches.map (.register thread) else []
    (mismatches, warnings, { v with diverged := v.diverged + 1 })

end Verifier

end Retrace
