import Retrace.Mode
import Retrace.Text.Argument
import Retrace.Json.Reader
import Retrace.Json.Writer

namespace Retrace

def defaultLogName : String := "_temp_rr_.log"

structure Config where
  mode : Mode := .inactive
  logPath : String := defaultLogName
  /-- How often the exit of a thread is asked for again. -/
  exitWaitRetries : UInt32 := 10
  exitWaitIntervalMs : UInt64 := 1
  /-- How many divergences of a kind are reported one by one. -/
  reportLimit : UInt64 := 10
  deriving DecidableEq, Inhabited

namespace Config

def recording (path : String) : Config := { mode := .record, logPath := path }

def replaying (path : String) : Config := { mode := .replay, logPath := path }

/-- An option that sets the mode or the log. -/
inductive Setting
  | mode (mode : Mode)
  | log (path : String)
  deriving DecidableEq

def modeOption : String := "--record-replay"

def logOption : String := "--log-file-rr"

/-- What an argument sets, if anything. -/
def setting? (arg : String) : Except SetupError (Option Setting) :=
  match Argument.value? modeOption arg with
  | some value => (Mode.ofOption value).map fun mode => some (.mode mode)
  | none =>
    match Argument.value? logOption arg with
    | some "" => .error .emptyLogPath
    | some path => .ok (some (.log path))
    | none => .ok none

/-- The options after the program's name, up to the first word that is none. -/
def optionBlock (args : List String) : List String :=
  (args.drop 1).takeWhile Argument.startsWithDash

/-- Applies options from left to right; a later one wins. -/
def scan (mode : Option Mode) (path : String) : List String → Except SetupError (Option Mode × String)
  | [] => .ok (mode, path)
  | arg :: rest => do
    match ← setting? arg with
    | some (.mode mode) => scan (some mode) path rest
    | some (.log path) => scan mode path rest
    | none => scan mode path rest

/-- The configuration of a command line; options that belong to others are passed over. -/
def ofArgs (args : List String) : Except SetupError Config := do
  let (mode, path) ← scan none defaultLogName (optionBlock args)
  match mode with
  | some mode => return { mode, logPath := path }
  | none => throw .missingMode

/-- The delay between two polls in microseconds, in a 64-bit word. -/
def exitWaitIntervalUs (config : Config) : UInt64 := config.exitWaitIntervalMs * 1000

def toJson (config : Config) : Json :=
  .record
    [("mode", config.mode.toJson),
     ("log_path", .text config.logPath),
     ("exit_wait_retries", .nat config.exitWaitRetries.toNat),
     ("exit_wait_interval_ms", .nat config.exitWaitIntervalMs.toNat),
     ("mismatch_report_limit", .nat config.reportLimit.toNat)]

def fieldNames : List String :=
  ["mode", "log_path", "exit_wait_retries", "exit_wait_interval_ms", "mismatch_report_limit"]

/-- The value of a field that may be left out. -/
def field? {α : Type} (read : Json → Option α) (default : α) : Option Json → Option α
  | none => some default
  | some value => read value

/-- Fields that are not written have their defaults. -/
def ofJson? (value : Json) : Option Config := do
  match ← value.fields? fieldNames with
  | [mode, path, retries, interval, limit] =>
    let base : Config := {}
    return {
      mode := ← field? Mode.ofJson? base.mode mode
      logPath := ← field? Json.text? base.logPath path
      exitWaitRetries := ← field? Json.uint32? base.exitWaitRetries retries
      exitWaitIntervalMs := ← field? Json.uint64? base.exitWaitIntervalMs interval
      reportLimit := ← field? Json.uint64? base.reportLimit limit }
  | _ => none

def render (config : Config) : String := config.toJson.render

def parse (text : String) : Except SetupError Config :=
  match (Json.ofText? text).bind ofJson? with
  | some config => .ok config
  | none => .error .malformedConfig

end Config

end Retrace
