import GpuCluster.CommandLine
import GpuCluster.Daemon.Run

/-!
# Running the command line

`CommandLine.run` goes from the arguments to the lines and the exit code of a daemon that is told to
stop as soon as it runs.
-/

namespace GpuCluster.CommandLine

variable {ε : Type}

/-- The directives of the log filter cannot be understood. -/
def invalidFilter (text : String) : List String :=
  errorReport ("Invalid log filter \x27" ++ text ++ "\x27") none

/-- Build a daemon, run it and stop it. -/
def runDaemon (s : Settings) (level : LogLevel) (registry : Executor.Registry (Executor ε))
    (executors : ε) (now : Instant) : Report :=
  let opening := [startingLine, loadedLine s]
  match Daemon.build s registry none with
  | .error r => {
      exitCode := 1
      log := written level opening
      errorLines := errorReport r.context (some r.cause.message) }
  | .ok plan => match Daemon.run plan now 0 { executors := executors } with
    | .ok _ d =>
      let stopped := stoppedLine d.dispatcher.dispatched d.dispatcher.failed d.dispatcher.depth
      { exitCode := 0
        interrupted := true
        log := written level (opening ++ [runningLine s, stopped]) }
    | .error _ _ => { exitCode := 1, log := written level opening }

def run (files : String → FileContent) (registry : Executor.Registry (Executor ε)) (executors : ε)
    (now : Instant) (arguments : List String) : Report :=
  match parse arguments with
  | .show => { exitCode := 0 }
  | .misuse => { exitCode := 2 }
  | .run o => match settingsOf files o with
    | .error lines => { exitCode := 1, errorLines := lines }
    | .ok s => match logLevel s.logging with
      | none => { exitCode := 1, errorLines := invalidFilter (s.logging.filter.getD "") }
      | some level => runDaemon s level registry executors now

end GpuCluster.CommandLine
