import ModScript.CommandLine.Report
import ModScript.CommandLine.Usage

/-!
# The program

Gives the command line access to the disk, and shows what its report says: output on the standard
output, all else on the standard error.
-/

namespace ModScript

/-- The fault behind an error of the system. -/
def FileFault.ofSystem : IO.Error → FileFault
  | .noFileOrDirectory .. => .missing
  | _ => .unusable

/-- An action on a path of the disk; the empty path leads nowhere. -/
def onDisk {α : Type} (path : String) (action : IO α) : IO (Except FileFault α) := do
  if path.isEmpty then return .error .missing
  match ← action.toBaseIO with
  | .ok a => return .ok a
  | .error e => return .error (FileFault.ofSystem e)

/-- The kind of what stands at a path of the disk. -/
def diskKind (path : String) : IO (Option FileKind) := do
  let here ← IO.currentDir
  match ← onDisk path (here / path).metadata with
  | .error _ => return none
  | .ok found =>
    match found.type with
    | .dir => return some .directory
    | .file => return some .file
    | _ => return none

/-- Access to the disk. -/
def disk : Files IO where
  read path := onDisk path (IO.FS.readBinFile path)
  list path := onDisk path do
    let here ← IO.currentDir
    return (← (here / path).readDir).toList.map fun entry => entry.fileName
  kind := diskKind
  write path content := onDisk path (IO.FS.writeBinFile path content)

/-- Shows a report and gives its exit code. -/
def present (report : Report) : IO UInt32 := do
  for notice in report.notices do
    IO.eprintln (notice.severity.text ++ " " ++ notice.text)
  for remark in report.remarks do
    IO.eprintln remark
  IO.print report.output
  if let some failure := report.failure then
    IO.eprintln ("Error: " ++ failure.text)
  return report.exitCode

end ModScript

open ModScript in
def main (words : List String) : IO UInt32 := do
  let environment ← IO.getEnv Config.environmentName
  match Arguments.read (environment.getD Config.defaultPath) words with
  | .ok arguments => present (← arguments.run disk)
  | .error refusal =>
    IO.print (refusal.output environment)
    IO.eprint refusal.complaint
    return refusal.exitCode
