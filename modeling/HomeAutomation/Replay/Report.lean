/-
  HomeAutomation.Replay.Report

  Replaying snapshots against simulated devices. Rules are registered, snapshots are dispatched one
  after the other, and a log tells which commands every snapshot sets off. With `--check` a rule is
  only read and shown.
-/
import HomeAutomation.Device.Simulated
import HomeAutomation.Engine.Sequential
import HomeAutomation.Home.Config
import HomeAutomation.Replay.Files
import HomeAutomation.Replay.Input
import HomeAutomation.Replay.Options

namespace HomeAutomation.Replay

/-! ## Results -/

/-- The levels of log entries. -/
inductive Level
  | info
  | warning
  | error
  deriving DecidableEq, Repr

/-- The name of a level. -/
def Level.name : Level → String
  | info => "INFO"
  | warning => "WARNING"
  | error => "ERROR"

/-- An entry of the log. -/
structure Entry where
  level : Level
  message : String
  deriving DecidableEq, Repr

/-- Why a replay breaks off. -/
inductive Fault
  | unreadable (path : String) (fault : FileFault)
  | config (error : ConfigError)
  | dispatch (error : DispatchError)
  /-- A snapshot has an integer that is too long to be read. -/
  | integerTooLong
  /-- A snapshot has too many values within each other. -/
  | tooDeep
  deriving DecidableEq, Repr

/-- How a replay ends. -/
inductive Exit
  | code (code : Nat)
  | badSnapshot (fault : SnapshotFault)
  | fault (fault : Fault)
  deriving DecidableEq, Repr

/-- What a replay gives. -/
structure Report where
  exit : Exit
  output : String := ""
  log : List Entry := []
  deriving DecidableEq, Repr

/-! ## Log -/

/-- The entries about a rule that is registered or rejected. -/
def ruleEntry (text : String) : Except ParseError Handle → Entry
  | .ok handle => ⟨.info, "rule " ++ handle.ruleId ++ ": " ++ text⟩
  | .error e =>
    ⟨.error, "rule rejected (" ++ e.kind.name ++ "): " ++ text ++ " -> " ++ e.message⟩

/-- The entry that counts rules and events. -/
def summaryEntry (book : RuleBook) (rejected : Nat) : Entry :=
  ⟨.info, "  Rules:  " ++ toString book.rules.length ++ " registered, " ++ toString rejected
    ++ " rejected, " ++ toString book.events.size ++ " event(s)"⟩

/-- The entries about a snapshot: what was commanded and what failed. -/
def snapshotEntries (number : Nat) (snapshot : Json) (sent : List (String × DeviceState))
    (outcomes : List ActionOutcome) : List Entry :=
  ⟨.info, "[" ++ toString number ++ "] " ++ snapshot.write Json.spaced ++ " -> "
      ++ toString sent.length ++ " command(s)"⟩
    :: sent.map (fun (deviceId, state) =>
        ⟨.info, "      → " ++ deviceId ++ " " ++ state.payload.display⟩)
    ++ outcomes.filterMap fun o =>
        o.error.map fun error => ⟨.warning, "      ✗ " ++ o.ruleId ++ ": " ++ error⟩

/-! ## Replay -/

/-- The engine of a replay. -/
abbrev ReplayEngine := Engine SimulatedDevices

/-- Registers rules; counts those that are rejected. -/
def registerAll : ReplayEngine → List String → ReplayEngine × Nat × List Entry
  | engine, [] => (engine, 0, [])
  | engine, text :: rest =>
    match engine.register text none with
    | .ok (engine, handle) =>
      let (engine, rejected, entries) := registerAll engine rest
      (engine, rejected, ruleEntry text (.ok handle) :: entries)
    | .error e =>
      let (engine, rejected, entries) := registerAll engine rest
      (engine, rejected + 1, ruleEntry text (.error e) :: entries)

/-- Dispatches snapshots, the first of which has the number `number`, until one cannot be
    dispatched. -/
def replayAll (number : Nat) : ReplayEngine → List Json → List Entry × Option DispatchError
  | _, [] => ([], none)
  | engine, snapshot :: rest =>
    let before := engine.outside.commands.length
    match Sequential.dispatch engine SimulatedDevices.backend snapshot with
    | (_, .error e) => ([], some e)
    | (engine, .ok outcomes) =>
      let sent := engine.outside.commands.drop before
      let (entries, stopped) := replayAll (number + 1) engine rest
      (snapshotEntries number snapshot sent outcomes ++ entries, stopped)

/-- Replays snapshots in a home. -/
def replay (range : SetPointRange) (rooms : List Room) (rules : List String)
    (snapshots : List Json) : Report :=
  let start : ReplayEngine := { directory := .ofRooms rooms, range, outside := {} }
  let (engine, rejected, registered) := registerAll start rules
  let (entries, stopped) := replayAll 1 engine snapshots
  { exit := match stopped with
      | some e => .fault (.dispatch e)
      | none => .code (if rejected = 0 then 0 else 1)
    log := registered ++ summaryEntry engine.book rejected :: entries }

/-- Reads a rule and shows it. -/
def check (range : SetPointRange) (text : String) : Report :=
  match Rule.parse range text with
  | .ok rule =>
    { exit := .code 0
      output := "condition: " ++ rule.condition.describe ++ "\n" ++ "action:    "
        ++ rule.action.describe ++ "\n" }
  | .error e => { exit := .code 1, output := e.kind.name ++ ": " ++ e.message ++ "\n" }

/-! ## Command line -/

/-- What the command line refers to: the files, by path, and the standard input. -/
structure Sources where
  file : String → Except FileFault String
  input : String

/-- The rules that the command line gives, before those of the rule file. -/
def rulesOf (sources : Sources) (options : Options) : Except Fault (List String) :=
  if options.rulesFile.isEmpty then .ok options.rules
  else
    match sources.file options.rulesFile with
    | .ok text => .ok (options.rules ++ ruleLines text)
    | .error fault => .error (.unreadable options.rulesFile fault)

/-- The snapshots that the command line gives. -/
def snapshotsOf (sources : Sources) (options : Options) : Except Exit (List Json) := do
  let source ←
    if options.snapshots.isEmpty then .ok sources.input
    else
      match sources.file options.snapshots with
      | .ok text => .ok text
      | .error fault => .error (.fault (.unreadable options.snapshots fault))
  match readSnapshots source with
  | .ok snapshots => .ok snapshots
  | .error ⟨_, ⟨.integerTooLong, _⟩⟩ => .error (.fault .integerTooLong)
  | .error ⟨_, ⟨.tooDeep, _⟩⟩ => .error (.fault .tooDeep)
  | .error fault => .error (.badSnapshot fault)

/-- The home that the command line names. -/
def homeOf (sources : Sources) (options : Options) : Except Fault (List Room) :=
  let source : HomeConfig.Source :=
    if options.homeConfig.isEmpty then .bundled
    else
      match sources.file options.homeConfig with
      | .ok text => .content text
      | .error _ => .unreadable
  (HomeConfig.load source).mapError .config

/-- Does what the command line asks for. -/
def run (range : SetPointRange) (sources : Sources) (arguments : List String) : Report :=
  match Options.parse arguments with
  | .error _ => { exit := .code 2 }
  | .ok options =>
    if options.help then { exit := .code 0 }
    else if !options.check.isEmpty then check range options.check
    else
      match rulesOf sources options with
      | .error e => { exit := .fault e }
      | .ok [] => { exit := .code 2 }
      | .ok rules =>
        match snapshotsOf sources options with
        | .error exit => { exit }
        | .ok snapshots =>
          match homeOf sources options with
          | .error e => { exit := .fault e }
          | .ok rooms => replay range rooms rules snapshots

end HomeAutomation.Replay
