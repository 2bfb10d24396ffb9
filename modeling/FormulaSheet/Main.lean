import FormulaSheet.CommandLine.Run
import FormulaSheet.Log
import FormulaSheet.Log.Stamp
import Std.Time.DateTime.Timestamp

/-!
# The program

The outermost layer reads what stands under the paths that the words of the command line may name,
runs the command line on it, and writes what came out: the answer, a complaint, and the events of
the run at the end of the journal of the project.
-/

open FormulaSheet

/-- The characters of a text. What is written has no halves of characters, and neither has a path
that words name. -/
def charactersOf (s : Text) : String :=
  String.ofList (s.toList.filterMap fun
    | .char c => some c
    | .half _ => none)

/-- What stands under a path. Only a folder can be opened and not read as a file. -/
def readEntry (path : Text) : IO CommandLine.Entry := do
  try
    let octets ← IO.FS.readBinFile (charactersOf path)
    return .file octets.toList
  catch e =>
    match e with
    | .inappropriateType _ _ _ => return .folder
    | _ => return .absent

/-- What stands under each of the given paths. -/
def readDisk (paths : List Text) : IO CommandLine.Disk := do
  let entries ← paths.mapM fun path => do return (path, ← readEntry path)
  return fun path => (entries.lookup path).getD .absent

/-- The present time. -/
def presentTime : IO Text := do
  let t ← Std.Time.Timestamp.now
  return Stamp.ofMicroseconds (t.toNanosecondsSinceUnixEpoch.toInt.toNat / 1000)

/-- The machine, with what its answers and complaints are shown on. -/
def presentMachine : IO Machine := do
  let answers ← (← IO.getStdout).isTty
  let complaints ← (← IO.getStderr).isTty
  return { Machine.standard with answers, complaints }

/-- Adds events to the journal of a project. -/
def recordEvents (folder : Text) (sync : Bool) (events : List Event) : IO Unit := do
  IO.FS.createDirAll (charactersOf (CommandLine.logFolder folder))
  let log : Log := ⟨.octets [], .standard, sync, true, false⟩
  match (log.emitAll events).journal with
  | .octets s =>
    if !s.isEmpty then
      IO.FS.withFile (charactersOf (CommandLine.journalPath folder)) .append fun h => do
        h.write ⟨s.toArray⟩
        if sync then h.flush
  | _ => pure ()

/-- Runs the program. -/
def main (words : List String) : IO UInt32 := do
  let words := words.map Text.ofString
  let disk ← readDisk (CommandLine.paths words)
  let machine ← presentMachine
  let report := CommandLine.run machine disk (← presentTime) words
  if let some folder := report.project then
    try
      recordEvents folder report.sync report.events
    catch e => IO.eprintln ("[sheetcalc] logging failed: " ++ toString e)
  IO.print (charactersOf report.output)
  IO.eprint (charactersOf report.complaint)
  if let some f := report.fault then
    IO.eprintln (charactersOf (CommandLine.told machine.complaints (f.name ++ ": " ++ f.message)))
  return report.status.toUInt32
