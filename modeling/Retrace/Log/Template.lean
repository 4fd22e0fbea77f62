import Retrace.Log.Desync

namespace Retrace.Log

/-- The slot of a recorded thread must be in the slot tables. -/
def checkSlot (thread : ThreadId) (body : Body) : Except Desync Body :=
  if thread.index < slotLimit then .ok body else .error (.slotOutOfRange thread.slot)

namespace Body

/-- What a template becomes by a recorded body. The kinds are compared before, so that bodies of two
kinds do not get here. -/
def settle (template recorded : Body) : Except Desync Body :=
  match template, recorded with
  | syscallArgs caller sysno, syscallArgs caller' sysno' =>
    if sysno ≠ sysno' then .error (.syscallMismatch sysno sysno')
    else if caller ≠ caller' then .error (.threadMismatch .syscallArgs caller caller')
    else .ok template
  | release tag, release tag' =>
    if tag ≠ tag' then .error (.releaseTagMismatch tag tag') else .ok template
  | dispatchCounter before _, dispatchCounter before' _ =>
    if before ≠ before' then .error (.dispatchPhaseMismatch before before') else .ok recorded
  | threadCreate .., threadCreate child _ => checkSlot child recorded
  | acquire .., acquire holder _ => checkSlot holder recorded
  | data len _, data len' _ =>
    if len ≠ len' then .error (.lengthMismatch .data len len') else .ok template
  | snapshot len, snapshot len' =>
    if len ≠ len' then .error (.lengthMismatch .snapshot len len') else .ok template
  | syscallRet .., syscallRet .. => .ok recorded
  | timestamp .., timestamp .. => .ok recorded
  | clientCmdline .., clientCmdline .. => .ok recorded
  | initClientStack .., initClientStack .. => .ok recorded
  | initMemLayout .., initMemLayout .. => .ok recorded
  | _, _ => .error (.kindMismatch template.kind recorded.kind)

end Body

/-- Checks a recorded entry against a template: the kind, then the thread, then the fields. -/
def Entry.settle (template recorded : Entry) : Except Desync Entry :=
  if recorded.kind ≠ template.kind then .error (.kindMismatch template.kind recorded.kind)
  else if recorded.thread ≠ template.thread then
    .error (.threadMismatch template.kind template.thread recorded.thread)
  else (template.body.settle recorded.body).map fun body => ⟨template.thread, body⟩

end Retrace.Log
