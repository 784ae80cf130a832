import GpuCluster.CommandLine.Run

/-!
# The program

The command line over the files of this machine. The daemon runs until standard input ends.
-/

open GpuCluster

def readFile (path : String) : IO FileContent := do
  try
    let content ← IO.FS.readBinFile path
    return .bytes content.toList
  catch e => match e with
    | .noFileOrDirectory .. => return .missing
    | _ => return .directory

/-- The file that the arguments name, before anything is made of it. -/
def fileOf (arguments : List String) : IO (String → FileContent) := do
  match CommandLine.parse arguments with
  | .run o => match o.config with
    | some path => do
      let content ← readFile path
      return fun _ => content
    | none => return fun _ => .missing
  | _ => return fun _ => .missing

def waitForEnd : IO Unit := do
  let input ← IO.getStdin
  repeat
    let line ← input.getLine
    if line.isEmpty then break

def main (arguments : List String) : IO UInt32 := do
  let report := CommandLine.run (← fileOf arguments) .empty () ⟨0, 0⟩ arguments
  let early := if report.interrupted then report.log.dropLast else report.log
  for line in early do IO.println line
  if report.interrupted then
    waitForEnd
    for line in report.log.drop early.length do IO.println line
  for line in report.errorLines do IO.eprintln line
  return report.exitCode.toUInt32
