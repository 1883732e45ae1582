/-
Module: VirtLifecycle.Main
Purpose: The program. It takes its configuration from the environment, rehearses one command on a
  cluster in memory that has no objects at first, and writes what came of it. The clock jumps from
  timer to timer, so no wait takes real time.
Specification: [SPEC 6 External interfaces], the binary (`kubevirt-provider`), here over the cluster in
  memory.
Main exports: main, rehearse
-/
import VirtLifecycle.Cluster.InMemory
import VirtLifecycle.Command.Execute
import VirtLifecycle.Config

namespace VirtLifecycle

/-- What a command line writes when it is carried out on an empty cluster from time zero on. A command
that never comes to an end writes nothing. -/
def rehearse (line : CommandLine) (config : Config) (files : Files) : Output :=
  match (line.execute .limited config files ⟨[], none⟩ 0).run Cluster.respond Cluster.empty |>.result with
  | some (left, _) => .ofEnd left
  | none => ⟨[], none⟩

/-- The text of a failure, also where no wording is fixed. -/
def LifecycleError.report (error : LifecycleError) : String :=
  match error.message?, error with
  | some text, _ => text
  | none, yaml => "the manifest is not an object of its kind in YAML"
  | none, file .notFound => "no such file"
  | none, file .invalidData => "the file is not a text"
  | none, file .storageFull => "the output is full"
  | none, _ => "the answer cannot be read"

/-- How the program is called. -/
def usage : String :=
  "usage: [--no-wait] create MANIFEST | read KIND ID | delete KIND ID | " ++
    "wait-running ID [--timeout-secs SECONDS]"

/-- The values of the configuration's variables in the environment. -/
def environment : IO Config.Lookup := do
  let values ← Config.Variable.all.mapM fun v => do
    return (v.name, ← IO.getEnv v.name)
  return fun name => (values.lookup name).join

/-- The file that a command reads, if it reads one. -/
def filesOf (command : Command) : IO Files := do
  match command with
  | .create path =>
    let bytes ← try some <$> IO.FS.readBinFile path catch _ => pure none
    return fun p => if p = path then bytes else none
  | _ => return fun _ => none

/-- Writes an output and tells the exit code. -/
def deliver (output : Output) : IO UInt32 := do
  (← IO.getStdout).write ⟨output.bytes.toArray⟩
  match output.failure with
  | none => return 0
  | some error =>
    IO.eprintln ("Error: " ++ error.report)
    return 1

end VirtLifecycle

open VirtLifecycle in
/-- Carries the arguments out. -/
def main (arguments : List String) : IO UInt32 := do
  match CommandLine.ofArguments arguments with
  | .error fault =>
    IO.eprintln usage
    return fault.exitCode.toUInt32
  | .ok line =>
    match Config.ofLookup (← environment) with
    | .error error => deliver ⟨[], some error⟩
    | .ok config => deliver (rehearse line config (← filesOf line.command))
