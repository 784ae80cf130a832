import GpuCluster.Settings

/-!
# The command line

* `CommandLine.Options`, `CommandLine.parse` : the flags, each at most once, each with a value as
  the next argument or after an equals sign;
* `CommandLine.settingsOf` : the settings of the file with the flags over them;
* `CommandLine.logLevel` : which log lines are written;
* `CommandLine.Report` : the lines and the exit code of a run.
-/

namespace GpuCluster.CommandLine

/-! ## Flags -/

structure Options where
  config : Option String := none
  logLevel : Option String := none
  tickSeconds : Option Nat := none
  serviceAddress : Option String := none
  deriving DecidableEq, Repr, Inhabited

inductive Flag where
  | config
  | logLevel
  | tickSeconds
  | serviceAddress
  deriving DecidableEq, Repr

def Flag.ofName? : String → Option Flag
  | "config" => some config
  | "log-level" => some logLevel
  | "tick-interval-secs" => some tickSeconds
  | "prometheus-url" => some serviceAddress
  | _ => none

inductive Command where
  | run (o : Options)
  /-- Show the help or the version, whatever follows. -/
  | show
  /-- It cannot be understood. -/
  | misuse
  deriving DecidableEq, Repr

/-- Give a flag its value, unless it has one. A path is not empty, and seconds are a number. -/
def Options.set (o : Options) (flag : Flag) (value : String) : Option Options :=
  match flag with
  | .config => if o.config.isSome || value = "" then none else some { o with config := value }
  | .logLevel => if o.logLevel.isSome then none else some { o with logLevel := value }
  | .tickSeconds =>
    if o.tickSeconds.isSome then none
    else (Decimal.parseU64 value).map fun n => { o with tickSeconds := n.toNat }
  | .serviceAddress =>
    if o.serviceAddress.isSome then none else some { o with serviceAddress := value }

inductive Argument where
  | help
  /-- A flag whose value is the next argument. -/
  | flag (f : Flag)
  | flagWith (f : Flag) (value : String)
  /-- The end of the flags. -/
  | terminator
  | other
  deriving DecidableEq, Repr

/-- A long name, perhaps with a value. -/
def readLong (s : List Char) : Argument :=
  let name := String.ofList (s.takeWhile (· ≠ '='))
  match s.dropWhile (· ≠ '=') with
  | [] =>
    if name = "help" ∨ name = "version" then .help
    else match Flag.ofName? name with
      | some f => .flag f
      | none => .other
  | _ :: value => match Flag.ofName? name with
    | some f => .flagWith f (String.ofList value)
    | none => .other

/-- A short name, perhaps with a value. -/
def readShort : List Char → Argument
  | 'h' :: _ | 'V' :: _ => .help
  | ['c'] => .flag .config
  | 'c' :: '=' :: value => .flagWith .config (String.ofList value)
  | 'c' :: value => .flagWith .config (String.ofList value)
  | _ => .other

def readArgument (text : String) : Argument :=
  match text.toList with
  | ['-', '-'] => .terminator
  | '-' :: '-' :: rest => readLong rest
  | ['-'] => .other
  | '-' :: rest => readShort rest
  | _ => .other

/-- The argument can be the value of the flag before it. -/
def isValue (text : String) : Bool := text = "-" || !text.startsWith "-"

/-- Read arguments in order. The first that does not fit decides. -/
def parseFrom (o : Options) : List String → Command
  | [] => .run o
  | text :: rest =>
    match readArgument text with
    | .help => .show
    | .other => .misuse
    | .terminator => if rest = [] then .run o else .misuse
    | .flagWith f value => match o.set f value with
      | some o => parseFrom o rest
      | none => .misuse
    | .flag f => match rest with
      | [] => .misuse
      | value :: rest =>
        if isValue value then
          match o.set f value with
          | some o => parseFrom o rest
          | none => .misuse
        else .misuse

def parse (arguments : List String) : Command := parseFrom {} arguments

/-- The settings with the flags over them. -/
def Options.applyTo (o : Options) (s : Settings) : Settings :=
  { s with
    logging := { s.logging with level := o.logLevel.getD s.logging.level }
    scheduler := { s.scheduler with tickSeconds := o.tickSeconds.getD s.scheduler.tickSeconds }
    telemetry :=
      { s.telemetry with serviceAddress := o.serviceAddress.or s.telemetry.serviceAddress } }

/-! ## The log -/

/-- The levels of the log, from nothing to everything. -/
inductive LogLevel where
  | off
  | error
  | warn
  | info
  | debug
  | trace
  deriving DecidableEq, Repr

/-- A larger rank writes more. -/
def LogLevel.rank : LogLevel → Nat
  | off => 0
  | error => 1
  | warn => 2
  | info => 3
  | debug => 4
  | trace => 5

/-- A level by its name in any case. -/
def LogLevel.ofName? (name : String) : Option LogLevel :=
  match name.toLower with
  | "trace" => some trace
  | "debug" => some debug
  | "info" => some info
  | "warn" => some warn
  | "error" => some error
  | _ => none

/-- A level in a directive, where it may also be off or a number. -/
def LogLevel.ofDirective? (name : String) : Option LogLevel :=
  match name with
  | "0" => some off
  | "1" => some error
  | "2" => some warn
  | "3" => some info
  | "4" => some debug
  | "5" => some trace
  | _ => if name.toLower = "off" then some off else ofName? name

/-- The level for the parts of a program whose name starts so. -/
structure Directive where
  target : String
  level : LogLevel
  deriving DecidableEq, Repr

/-- A character of the name of a part. -/
def isTargetChar (c : Char) : Bool := c.isAlphanum || c = '_' || c = ':' || c = '-'

/-- A directive: a level, a part, or both with an equals sign. A part alone writes everything. -/
def Directive.parse? (text : String) : Option Directive :=
  match LogLevel.ofDirective? text with
  | some level => some ⟨"", level⟩
  | none =>
    let s := text.toList
    let target := s.takeWhile (· ≠ '=')
    if target.isEmpty || !target.all isTargetChar then none
    else match s.dropWhile (· ≠ '=') with
      | [] | ['='] => some ⟨String.ofList target, .trace⟩
      | _ :: level => (LogLevel.ofDirective? (String.ofList level)).map fun l =>
          ⟨String.ofList target, l⟩

/-- Directives with commas between them. -/
def directives? (text : String) : Option (List Directive) :=
  ((text.splitOn ",").filter (· ≠ "")).mapM Directive.parse?

/-- The level for a part: that of the directive with the longest matching name, of the last one if
there are several. -/
def levelFor (part : String) (ds : List Directive) : LogLevel :=
  let matching := ds.filter fun d => part.startsWith d.target
  let best := matching.foldl (fun (best : Option Directive) d =>
    match best with
    | none => some d
    | some b => if b.target.length ≤ d.target.length then some d else some b) none
  (best.map (·.level)).getD .off

def program : String := "gpuschedd"

/-- The level of the log. Directives replace the level; no directive at all leaves only errors. -/
def logLevel (l : Settings.Logging) : Option LogLevel :=
  match l.filter with
  | none => some ((LogLevel.ofName? l.level).getD .info)
  | some text => (directives? text).map fun ds =>
      if ds.isEmpty then .error else levelFor program ds

/-! ## Running -/

structure Report where
  exitCode : Nat
  /-- It came so far that it had to be stopped. -/
  interrupted : Bool := false
  log : List String := []
  /-- The error, line by line. -/
  errorLines : List String := []
  deriving DecidableEq, Repr

/-- An error and its cause as lines. -/
def errorReport (context : String) (cause : Option String) : List String :=
  ("Error: " ++ context) :: match cause with
    | some text => ["", "Caused by:", "    " ++ text]
    | none => []

/-- The settings that the flags and the file make. -/
def settingsOf (files : String → FileContent) (o : Options) : Except (List String) Settings :=
  match o.config with
  | none => .ok (o.applyTo {})
  | some path => match Settings.ofFile (files path) with
    | .ok s => .ok (o.applyTo s)
    | .error e => .error (errorReport ("Failed to load config " ++ path) (some e.message))

def version : String := "0.1.0"

def startingLine : String := "Starting gpusched daemon v" ++ version

def loadedLine (s : Settings) : String :=
  "Configuration loaded tick_interval_secs=" ++ toString s.scheduler.tickSeconds ++ " strategy=" ++
    s.preemption.activeStrategy

def runningLine (s : Settings) : String :=
  "gpusched daemon running strategy=" ++ s.preemption.activeStrategy

def stoppedLine (dispatched failed pending : Nat) : String :=
  "gpusched daemon stopped dispatched=" ++ toString dispatched ++ " failed=" ++ toString failed ++
    " pending=" ++ toString pending

/-- Lines of the log at the level of information. -/
def written (level : LogLevel) (lines : List String) : List String :=
  if LogLevel.info.rank ≤ level.rank then lines else []

end GpuCluster.CommandLine
