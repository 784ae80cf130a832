import GpuCluster.Executor.Basic
import GpuCluster.Executor.Launch
import GpuCluster.Executor.Output

/-!
# Jobs as local processes

* `Program`, `Machine` : what programs do, which programs and directories there are, and what the
  machine refuses;
* `Process` : a launched process with what it writes, how it ends and what is logged of it;
* `Process.collect` : one more line of a stream goes to the log, to which both streams go;
* `Process.Table` : the tracked processes, at most one per job;
* `Process.Settings`, `Process.executor` : the executor over such a table.

A process runs until it has ended: `Table.settle` lets one process end and collects its output,
`Table.settleAll` does so for all.
-/

namespace GpuCluster

inductive Ending where
  | exit (code : Nat)
  /-- A signal ends it. -/
  | killed
  /-- It does not end by itself. -/
  | never
  deriving DecidableEq, Repr

/-- What a process writes and how it ends. -/
structure Outcome where
  standardOutput : List UInt8 := []
  standardError : List UInt8 := []
  ending : Ending := .exit 0
  deriving DecidableEq, Repr

/-- A program: what it does in a launch. -/
abbrev Program := Launch → Outcome

/-- What a process writes to. -/
inductive Stream where
  | output
  | error
  deriving DecidableEq, Repr

/-- A launched process. -/
structure Process where
  outcome : Outcome
  /-- The lines of a stream that are still to be collected. -/
  unread : Stream → List (List UInt8)
  /-- The output collected so far, of both streams. -/
  log : String := ""
  exited : Bool := false

/-- The machine that jobs run on. -/
structure Machine where
  program? : String → Option Program
  directoryExists : String → Bool
  /-- Why the machine does not tell whether a process has ended, if it does not. -/
  waitError? : JobId → Process → Option String := fun _ _ => none
  /-- Why the machine does not stop a process, if it does not. -/
  killError? : JobId → Process → Option String := fun _ _ => none
  /-- A file can be removed. -/
  removes : String → Bool := fun _ => true

/-- The text of a missing file or directory. -/
def Machine.notFoundText : String := "No such file or directory (os error 2)"

/-- The text of a NUL in a launch. -/
def Machine.nulText : String := "nul byte found in provided data"

namespace Machine

/-- Start a launch, or tell why it cannot be started. -/
def start (m : Machine) (l : Launch) : Except String Outcome :=
  if l.mentionsNul then .error nulText
  else if l.directory.any (fun d => !m.directoryExists d) then .error notFoundText
  else match m.program? l.program with
    | some p => .ok (p l)
    | none => .error notFoundText

end Machine

namespace Error

/-- The job is tracked already. -/
def alreadyLaunched (id : JobId) : Error :=
  .conflict ("job " ++ id.toText ++ " is already launched")

/-- The process could not be started. -/
def spawnFailed (id : JobId) (reason : String) : Error :=
  .execution ("Failed to spawn job " ++ id.toText ++ ": " ++ reason)

/-- The process could not be stopped. -/
def killFailed (id : JobId) (reason : String) : Error :=
  .execution ("Failed to kill job " ++ id.toText ++ ": " ++ reason)

end Error

namespace Process

/-- A process that has just been started. -/
def start (o : Outcome) : Process where
  outcome := o
  unread
    | .output => Output.lines o.standardOutput
    | .error => Output.lines o.standardError

/-- What the process looks like from outside. -/
def status (p : Process) : JobStatus :=
  if p.exited then
    match p.outcome.ending with
    | .exit 0 => .completed
    | .exit _ => .failed
    | .killed => .failed
    | .never => .running
  else .running

/-- Leave these lines of a stream to be collected. -/
def leave (stream : Stream) (rest : List (List UInt8)) (p : Process) : Process :=
  { p with unread := fun s => if s = stream then rest else p.unread s }

/-- Collect the next line of a stream. At a line that is no text the collecting of the stream
ends. -/
def collect (stream : Stream) (p : Process) : Process :=
  match p.unread stream with
  | [] => p
  | line :: rest =>
    match Output.textOf? line with
    | some text => { p.leave stream rest with log := p.log ++ text ++ "\n" }
    | none => p.leave stream []

/-- Collect all that is left of a stream. -/
def drain (stream : Stream) (p : Process) : Process :=
  (p.unread stream).length.repeat (collect stream) p

/-- Let the process end, unless it never does. -/
def finish (p : Process) : Process :=
  match p.outcome.ending with
  | .never => p
  | _ => { p with exited := true }

/-- Let the process end, unless it never does, and collect its output. -/
def settle (p : Process) : Process :=
  match p.outcome.ending with
  | .never => p
  | _ => ((p.drain .output).drain .error).finish

structure Table where
  entries : List (JobId × Process)
  deriving Inhabited

namespace Table

def empty : Table := ⟨[]⟩

def find? (t : Table) (id : JobId) : Option Process :=
  (t.entries.find? (·.1 == id)).map (·.2)

def contains (t : Table) (id : JobId) : Bool := (t.find? id).isSome

def insert (t : Table) (id : JobId) (p : Process) : Table := ⟨t.entries ++ [(id, p)]⟩

def erase (t : Table) (id : JobId) : Table := ⟨t.entries.filter fun e => !(e.1 == id)⟩

def size (t : Table) : Nat := t.entries.length

/-- Let something happen to the process of a job. -/
def alter (t : Table) (id : JobId) (f : Process → Process) : Table :=
  ⟨t.entries.map fun e => if e.1 == id then (e.1, f e.2) else e⟩

/-- Let the process of a job end, and collect its output. -/
def settle (t : Table) (id : JobId) : Table := t.alter id .settle

/-- Let all processes end that ever do, and collect their output. -/
def settleAll (t : Table) : Table := ⟨t.entries.map fun e => (e.1, e.2.settle)⟩

end Table

structure Settings where
  directory : Option String := none
  /-- The environment of every job. -/
  environment : Bindings String := ∅
  /-- The job types it takes. -/
  jobTypes : List String := [Job.batchType]

/-- The process of a job that must be tracked. -/
def tracked (id : JobId) : Action Table Process := fun t =>
  match t.find? id with
  | some p => .ok p t
  | none => .error (.error (.jobNotFound id.toText)) t

/-- Start a command line for a job and track it. -/
def launch (m : Machine) (s : Settings) (j : Job) (commandLine : List String) :
    Action Table Unit := do
  let table ← get
  if table.contains j.id then Action.fail (.alreadyLaunched j.id)
  else do
    let l ← Action.ofExcept (Launch.forJob s.environment s.directory j commandLine)
    match m.start l with
    | .ok outcome => set (table.insert j.id (.start outcome))
    | .error reason => Action.fail (.spawnFailed j.id reason)

def executor (m : Machine) (s : Settings) : Executor Table where
  name := "process"
  supports jobType := s.jobTypes.contains jobType
  execute j := launch m s j j.command
  cancel id := do
    let p ← tracked id
    modify (·.erase id)
    match m.killError? id p with
    | none => pure ()
    | some reason => Action.fail (.killFailed id reason)
  status id := do
    let p ← tracked id
    match m.waitError? id p with
    | none => return p.status
    | some reason => Action.fail (.io reason)
  logs id := return (← tracked id).log
  release id := modify (·.erase id)

end Process

end GpuCluster
