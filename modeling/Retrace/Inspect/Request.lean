import Retrace.Inspect.Dump
import Retrace.Inspect.Statistics
import Retrace.Log.Place
import Retrace.Config

namespace Retrace.Inspect

inductive Request
  /-- Print every entry. -/
  | inspect (log : String) (format : Format) (preview : Nat)
  /-- Print how many entries there are. -/
  | summary (log : String) (format : Format)
  deriving DecidableEq

/-- The options after a command; each is given at most once. -/
structure Options where
  log : Option String := none
  format : Option Format := none
  preview : Option Nat := none

/-- An option that takes a value. -/
inductive ValueOption
  | log
  | preview
  deriving DecidableEq

namespace Options

def setLog? (o : Options) (path : String) : Option Options :=
  if path.isEmpty || o.log.isSome then none else some { o with log := some path }

/-- The number of bytes has 64 bits. -/
def setPreview? (o : Options) (digits : String) : Option Options := do
  let limit ← Numeral.ofText? digits
  if limit < UInt64.size ∧ o.preview.isNone then some { o with preview := some limit } else none

def setJson? (o : Options) : Option Options :=
  if o.format.isSome then none else some { o with format := some .json }

def set? (o : Options) : ValueOption → String → Option Options
  | .log, value => o.setLog? value
  | .preview, value => o.setPreview? value

end Options

/-- An argument that is an option. -/
inductive OptionWord
  | json
  /-- The value is in the next argument. -/
  | detached (option : ValueOption)
  | attached (option : ValueOption) (value : String)
  deriving DecidableEq

/-- The value behind a short option may have an equals sign in front of it. -/
def shortValue? (arg : String) : Option String :=
  (Argument.value? "-l" arg).or (Argument.behind? "-l" arg)

def OptionWord.ofArg? (arg : String) : Option OptionWord :=
  match arg with
  | "--json" => some .json
  | "--log" => some (.detached .log)
  | "-l" => some (.detached .log)
  | "--preview" => some (.detached .preview)
  | _ =>
    ((Argument.value? "--log" arg).map (.attached .log)).or <|
      ((Argument.value? "--preview" arg).map (.attached .preview)).or <|
        (shortValue? arg).map (.attached .log)

/-- Whether an argument can be the value of the option before it. -/
def isDetachedValue (arg : String) : Bool := arg == "-" || !Argument.startsWithDash arg

/-- Reads the arguments after a command. Two dashes end the options, and nothing may follow them. -/
def Options.ofArgs? (o : Options) : List String → Option Options
  | [] => some o
  | ["--"] => some o
  | arg :: rest =>
    match OptionWord.ofArg? arg, rest with
    | some .json, rest => do (← o.setJson?).ofArgs? rest
    | some (.attached option value), rest => do (← o.set? option value).ofArgs? rest
    | some (.detached option), value :: rest =>
      if isDetachedValue value then do (← o.set? option value).ofArgs? rest else none
    | some (.detached _), [] => none
    | none, _ => none

namespace Request

/-- How many payload bytes are shown if nothing is said. -/
def defaultPreview : Nat := 16

/-- What a command line asks for, if it is one of the inspector. -/
def ofArgs? : List String → Option Request
  | "inspect" :: rest => do
    let o ← Options.ofArgs? {} rest
    return inspect (o.log.getD defaultLogName) (o.format.getD .text) (o.preview.getD defaultPreview)
  | "summary" :: rest => do
    let o ← Options.ofArgs? {} rest
    if o.preview.isSome then none
    else some (summary (o.log.getD defaultLogName) (o.format.getD .text))
  | _ => none

def logPath : Request → String
  | inspect log _ _ => log
  | summary log _ => log

end Request

/-- What a run of the inspector leaves: its exit code and what it printed. -/
structure Printed where
  exit : UInt32
  out : Bytes
  /-- Why it failed. -/
  failure : Option String := none

namespace Printed

def badUsage : Printed := ⟨2, [], some "usage: inspect|summary [--log PATH] [--json] [--preview BYTES]"⟩

end Printed

/-- Answers a request about an open log. -/
def Request.answer (request : Request) (source : Log.Source) : Printed :=
  match request with
  | .inspect log format preview =>
    match dump format preview source {} with
    | (.ok _, sink) => ⟨0, sink.held, none⟩
    | (.error e, sink) => ⟨1, sink.held, some ("failed to inspect " ++ log ++ ": " ++ e.message)⟩
  | .summary _ .text => ⟨0, Utf8.encodeText (Statistics.ofSource source).1.text, none⟩
  | .summary _ .json =>
    ⟨0, Utf8.encodeText ((Statistics.ofSource source).1.toJson.renderIndented ++ "\n"), none⟩

/-- Answers a request, given what stands at the path of its log. -/
def Request.run (request : Request) (place : Log.Place) : Printed :=
  match place.read with
  | .ok source => request.answer source
  | .error reason => ⟨1, [], some ("cannot open log " ++ request.logPath ++ ": " ++ reason.message)⟩

end Retrace.Inspect
