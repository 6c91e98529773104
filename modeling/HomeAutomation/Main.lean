/-
  HomeAutomation.Main

  The command line: replays sensor snapshots through automation rules and writes the log.
-/
import HomeAutomation.Replay.Report
import HomeAutomation.Service.Settings

namespace HomeAutomation.CommandLine

/-- The text of a file, or why it cannot be read. -/
def readFile (path : String) : IO (Except Replay.FileFault String) := do
  try
    return .ok (← IO.FS.readFile path)
  catch
    | .inappropriateType .. => return .error .isFolder
    | _ => return .error .missing

/-- The files that a command line names, with what they hold. -/
def readFiles (arguments : List String) : IO (Table (Except Replay.FileFault String)) := do
  match Replay.Options.parse arguments with
  | .error _ => return []
  | .ok options =>
    let named := [options.rulesFile, options.snapshots, options.homeConfig].filter (!·.isEmpty)
    named.foldlM (fun table path => do return Table.set table path (← readFile path)) []

/-- Whether a command line reads its snapshots from the standard input. -/
def readsInput (arguments : List String) : Bool :=
  match Replay.Options.parse arguments with
  | .error _ => false
  | .ok options => !options.help && options.check.isEmpty && options.snapshots.isEmpty

/-- The environment variables that are settings. -/
def readSettings : IO Settings := do
  let names := ["AC_MIN_TEMPERATURE", "AC_MAX_TEMPERATURE"]
  let environment ← names.foldlM (fun table name => do
    match ← IO.getEnv name with
    | some value => return Table.set table name value
    | none => return table) ([] : Table String)
  match Settings.ofEnvironment environment with
  | .ok settings => return settings
  | .error refused => throw (IO.userError ("invalid settings: " ++ ", ".intercalate refused))

/-- Replays what the command line asks for; gives the exit code. -/
def replay (arguments : List String) : IO UInt32 := do
  let settings ← readSettings
  let files ← readFiles arguments
  let input ← if readsInput arguments then (← IO.getStdin).readToEnd else pure ""
  let file (path : String) := (Table.get? files path).getD (.error .missing)
  let report := Replay.run settings.setPointRange ⟨file, input⟩ arguments
  IO.print report.output
  for entry in report.log do
    IO.eprintln (entry.level.name ++ " " ++ entry.message)
  match report.exit with
  | .code code => return code.toUInt32
  | .badSnapshot fault => do
    IO.eprintln ("snapshot line " ++ toString fault.line)
    return 1
  | .fault _ => do
    IO.eprintln "the replay broke off"
    return 1

end HomeAutomation.CommandLine

/-- The program. -/
def main (arguments : List String) : IO UInt32 := HomeAutomation.CommandLine.replay arguments
