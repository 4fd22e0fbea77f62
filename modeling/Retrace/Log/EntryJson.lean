import Retrace.Json.Magnitude
import Retrace.Log.Entry

namespace Retrace.Log

namespace Body

/-- The members of a body after its kind. -/
def members : Body → List (String × Json)
  | syscallArgs caller sysno => [("caller", caller.toJson), ("sysno", .nat sysno.toNat)]
  | syscallRet value => [("value", .nat value.toNat)]
  | dispatchCounter before counter => [("before", .bool before), ("counter", .nat counter.toNat)]
  | threadCreate child kernelTid => [("child", child.toJson), ("kernel_tid", kernelTid.toJson)]
  | acquire holder callerClass => [("holder", holder.toJson), ("class", callerClass.toJson)]
  | release tag => [("tag", tag.toJson)]
  | timestamp low high => [("low", .nat low.toNat), ("high", .nat high.toNat)]
  | clientCmdline len => [("len", .nat len.toNat)]
  | initClientStack stackSize auxv => [("stack_size", .nat stackSize.toNat), ("auxv", .nat auxv.toNat)]
  | initMemLayout vstart stackTop => [("vstart", .nat vstart.toNat), ("stack_top", .nat stackTop.toNat)]
  | data len addr => [("len", .nat len.toNat), ("addr", .nat addr.toNat)]
  | snapshot len => [("len", .nat len.toNat)]

/-- The body with its kind in front. -/
def taggedMembers (body : Body) : List (String × Json) :=
  ("kind", .text body.kind.name) :: body.members

def toJson (body : Body) : Json := .record body.taggedMembers

/-- The members a kind needs besides its name. -/
def fieldNames : Kind → List String
  | .syscallArgs => ["caller", "sysno"]
  | .syscallRet => ["value"]
  | .dispatchCounter => ["before", "counter"]
  | .threadCreate => ["child", "kernel_tid"]
  | .acquire => ["holder", "class"]
  | .release => ["tag"]
  | .timestamp => ["low", "high"]
  | .clientCmdline => ["len"]
  | .initClientStack => ["stack_size", "auxv"]
  | .initMemLayout => ["vstart", "stack_top"]
  | .data => ["len", "addr"]
  | .snapshot => ["len"]

/-- A choice inside a body may also be written as an object with that one key and an empty object. -/
def innerChoice? : Json → Option String
  | .object [(key, .object [])] => key
  | value => value.choice?

def ofFields? : Kind → List Json → Option Body
  | .syscallArgs, [caller, sysno] =>
    return syscallArgs (← ThreadId.ofJson? caller) (← sysno.uint32?)
  | .syscallRet, [value] => return syscallRet (← value.uint64?)
  | .dispatchCounter, [before, counter] => return dispatchCounter (← before.bool?) (← counter.uint64?)
  | .threadCreate, [child, kernelTid] =>
    return threadCreate (← ThreadId.ofJson? child) (← KernelTid.ofJson? kernelTid)
  | .acquire, [holder, callerClass] =>
    return acquire (← ThreadId.ofJson? holder) (← (innerChoice? callerClass).bind CallerClass.ofName?)
  | .release, [tag] => return release (← ReleaseTag.ofJson? tag)
  | .timestamp, [low, high] => return timestamp (← low.uint32?) (← high.uint32?)
  | .clientCmdline, [len] => return clientCmdline (← len.uint32?)
  | .initClientStack, [stackSize, auxv] => return initClientStack (← stackSize.uint32?) (← auxv.uint64?)
  | .initMemLayout, [vstart, stackTop] => return initMemLayout (← vstart.uint64?) (← stackTop.uint64?)
  | .data, [len, addr] => return data (← len.uint64?) (← addr.uint64?)
  | .snapshot, [len] => return snapshot (← len.uint64?)
  | _, _ => none

def kindNamed? (value : Json) : Option Kind := value.text?.bind Kind.ofName?

/-- The body among the members of an object, given how its kind is read. -/
def ofMembers? (kind? : Json → Option Kind) (members : List (Option String × Json)) : Option Body := do
  let kind ← kind? (← (← Json.atMostOne? "kind" members))
  ofFields? kind (← Json.allFields? (fieldNames kind) (.object members))

/-- A body may also be written as the array of its kind and its fields. -/
def ofJson? (value : Json) : Option Body :=
  if value.isKeepable then
    match value with
    | .object members => ofMembers? kindNamed? members
    | .array (tag :: fields) => do
      let kind ← kindNamed? tag
      ofFields? kind (← Json.allFields? (fieldNames kind) (.array fields))
    | _ => none
  else none

end Body

namespace Entry

def members (e : Entry) : List (String × Json) := ("thread", e.thread.toJson) :: e.body.taggedMembers

def toJson (e : Entry) : Json := .record e.members

/-- In an entry a kind may also be given by its place in the order of the tags. -/
def kindOf? : Json → Option Kind
  | .number n => n.toNat?.bind (Kind.all[·]?)
  | value => Body.kindNamed? value

def ofJson? (value : Json) : Option Entry :=
  if value.isKeepable then
    match value with
    | .object members => do
      let thread ← ThreadId.ofJson? (← (← Json.atMostOne? "thread" members))
      return ⟨thread, ← Body.ofMembers? kindOf? members⟩
    | _ => none
  else none

end Entry

end Retrace.Log
