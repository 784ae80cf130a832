import GpuCluster.Executor.Mpi

/-!
# A machine with a few programs

The programs of a simulated machine have names that start with `@`; there are no others.

* `Programs.dump`, `Programs.arguments`, ... : what they do;
* `Programs.machine` : the machine, with one directory.
-/

namespace GpuCluster.Simulation.Programs

def bytesOf (text : String) : List UInt8 := text.toUTF8.toList

/-- A program that writes a text and succeeds. -/
def writing (text : String) : Outcome := { standardOutput := bytesOf text }

/-- Shows the variables that are named by the arguments, one per line. -/
def dump (l : Launch) : Outcome :=
  writing (String.join (l.arguments.map fun name =>
    match l.environment.get? name with
    | some value => name ++ "=" ++ value ++ "\n"
    | none => name ++ " unset\n"))

/-- Shows its arguments in brackets, one per line. -/
def arguments (l : Launch) : Outcome :=
  writing (String.join (l.arguments.map fun a => "[" ++ a ++ "]\n"))

/-- Writes its arguments one after the other. -/
def print (l : Launch) : Outcome := writing (String.join l.arguments)

/-- Writes its arguments to the standard error. -/
def printError (l : Launch) : Outcome := { standardError := bytesOf (String.join l.arguments) }

/-- The bytes of pairs of hexadecimal digits. -/
def hexBytes : List Char → List UInt8
  | a :: b :: rest =>
    match Json.hexDigit? a, Json.hexDigit? b with
    | some x, some y => UInt8.ofNat (x * 16 + y) :: hexBytes rest
    | _, _ => []
  | _ => []

def hex (l : Launch) : Outcome :=
  { standardOutput := l.arguments.flatMap fun a => hexBytes a.toList }

/-- Exits with its argument modulo 256. -/
def exit (l : Launch) : Outcome :=
  let code := (l.arguments.head?.bind Decimal.parseInteger).getD 0
  { ending := .exit (code.emod 256).toNat }

def directory (l : Launch) : Outcome := writing (l.directory.getD "" ++ "\n")

def named? : String → Option Program
  | "@dump" => some dump
  | "@args" => some arguments
  | "@print" => some print
  | "@eprint" => some printError
  | "@hex" => some hex
  | "@exit" => some exit
  | "@abort" => some fun _ => { ending := .killed }
  | "@sleep" => some fun _ => { ending := .never }
  | "@cwd" => some directory
  | _ => none

def place : String := "<DIR>"

/-- A directory that does not. -/
def nowhere : String := "<DIR>/missing"

def machine : Machine where
  program? := named?
  directoryExists d := d == place

end GpuCluster.Simulation.Programs
