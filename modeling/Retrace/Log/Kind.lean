import Retrace.Json.Shape

namespace Retrace.Log

inductive Kind
  | syscallArgs
  | syscallRet
  | dispatchCounter
  | threadCreate
  | acquire
  | release
  | timestamp
  | clientCmdline
  | initClientStack
  | initMemLayout
  | data
  | snapshot
  deriving DecidableEq, Inhabited

namespace Kind

/-- Every kind, in the order of the tags. -/
def all : List Kind :=
  [syscallArgs, syscallRet, dispatchCounter, threadCreate, acquire, release, timestamp,
    clientCmdline, initClientStack, initMemLayout, data, snapshot]

/-- The number that stands for the kind in a record. -/
def tag : Kind → UInt32
  | syscallArgs => 1
  | syscallRet => 2
  | dispatchCounter => 3
  | threadCreate => 4
  | acquire => 5
  | release => 6
  | timestamp => 7
  | clientCmdline => 8
  | initClientStack => 9
  | initMemLayout => 10
  | data => 11
  | snapshot => 12

def ofTag? (tag : UInt32) : Option Kind := all.find? (·.tag == tag)

@[simp] theorem ofTag?_tag (kind : Kind) : ofTag? kind.tag = some kind := by cases kind <;> decide

theorem tag_of_ofTag? {tag : UInt32} {kind : Kind} (h : ofTag? tag = some kind) : kind.tag = tag := by
  simpa using List.find?_some h

/-- Whether bytes of a declared length follow the record. -/
def hasPayload (kind : Kind) : Bool :=
  kind == clientCmdline || kind == data || kind == snapshot

def name : Kind → String
  | syscallArgs => "syscall_args"
  | syscallRet => "syscall_ret"
  | dispatchCounter => "dispatch_counter"
  | threadCreate => "thread_create"
  | acquire => "acquire"
  | release => "release"
  | timestamp => "timestamp"
  | clientCmdline => "client_cmdline"
  | initClientStack => "init_client_stack"
  | initMemLayout => "init_mem_layout"
  | data => "data"
  | snapshot => "snapshot"

def ofName? (name : String) : Option Kind := all.find? (·.name == name)

/-- The name of a kind where it is a JSON value of its own. -/
def choiceName : Kind → String
  | syscallArgs => "SyscallArgs"
  | syscallRet => "SyscallRet"
  | dispatchCounter => "DispatchCounter"
  | threadCreate => "ThreadCreate"
  | acquire => "Acquire"
  | release => "Release"
  | timestamp => "Timestamp"
  | clientCmdline => "ClientCmdline"
  | initClientStack => "InitClientStack"
  | initMemLayout => "InitMemLayout"
  | data => "Data"
  | snapshot => "Snapshot"

def toJson (kind : Kind) : Json := .text kind.choiceName

def ofJson? (value : Json) : Option Kind :=
  value.choice?.bind fun name => all.find? (·.choiceName == name)

end Kind

/-- Why a thread asks to run: in its turn, to handle a preemption, or for no known reason. -/
inductive CallerClass
  | normal
  | preempt
  | unknown
  deriving DecidableEq, Inhabited

namespace CallerClass

def all : List CallerClass := [normal, preempt, unknown]

/-- The number that stands for the class in a record. -/
def wire : CallerClass → UInt32
  | normal => 0
  | preempt => 1
  | unknown => 0xFFFFFFFF

def ofWire? (value : UInt32) : Option CallerClass := all.find? (·.wire == value)

@[simp] theorem ofWire?_wire (c : CallerClass) : ofWire? c.wire = some c := by cases c <;> decide

def name : CallerClass → String
  | normal => "Normal"
  | preempt => "Preempt"
  | unknown => "Unknown"

def ofName? (name : String) : Option CallerClass := all.find? (·.name == name)

def toJson (c : CallerClass) : Json := .text c.name

def ofJson? (value : Json) : Option CallerClass := value.choice?.bind ofName?

end CallerClass

end Retrace.Log
