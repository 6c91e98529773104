/-
  HomeAutomation.Service.Settings

  The settings of an installation, taken from environment variables. The case of their names does
  not matter, and variables that name no setting are passed over.
-/
import HomeAutomation.Json.Value
import HomeAutomation.Number.Plain
import HomeAutomation.Rule.Parser
import HomeAutomation.Text.LowerCase

namespace HomeAutomation

/-- The settings. -/
structure Settings where
  appName : String := "Home Rules Engine"
  timezone : String := "Asia/Jerusalem"
  /-- How devices are controlled: `http` through their hosts, else simulated. -/
  mode : String := "sim"
  /-- Where sensors are read: `http` at the hosts of the rooms, else simulated. -/
  sensorMode : String := "sim"
  pollSeconds : Int := 30
  databasePath : String := "homerules.db"
  /-- The file of the home configuration; empty for the bundled one. -/
  homeConfigPath : String := ""
  httpTimeoutSeconds : Double := 5
  /-- The key for device hosts; empty for none. -/
  deviceApiKey : String := ""
  acMinTemperature : Double := 16
  acMaxTemperature : Double := 30
  logFile : String := "homerules.log"
  logLevel : String := "INFO"
  deriving DecidableEq, Repr, Inhabited

namespace Settings

/-- The temperatures that rules may set an air conditioner to. -/
def setPointRange (s : Settings) : SetPointRange := ⟨s.acMinTemperature, s.acMaxTemperature⟩

/-- Whether a word for a source means the hosts of the rooms. -/
def meansHttp (word : String) : Bool := Text.lower word == "http"

/-- The levels of log entries, by which a log is limited. -/
def logLevels : List String :=
  ["CRITICAL", "DEBUG", "ERROR", "FATAL", "INFO", "NOTSET", "WARN", "WARNING"]

/-- The capital of a letter whose capital is ASCII; the dotless i and the long s are such letters
    too. -/
def capital (c : Char) : Char :=
  if c = 'ı' then 'I' else if c = 'ſ' then 'S' else c.toUpper

/-- Whether a word names a level of log entries, in letters of any case. -/
def namesLogLevel (word : String) : Bool :=
  logLevels.contains (String.ofList (word.toList.map capital))

/-- Takes the value of a variable; `none` if the value does not fit the setting. -/
def enter (s : Settings) (name value : String) : Option Settings :=
  match name with
  | "app_name" => some { s with appName := value }
  | "timezone" => some { s with timezone := value }
  | "mode" => some { s with mode := value }
  | "sensor_mode" => some { s with sensorMode := value }
  | "poll_seconds" => (Number.readPlainInteger? value).map fun n => { s with pollSeconds := n }
  | "sqlite_path" => some { s with databasePath := value }
  | "home_config_path" => some { s with homeConfigPath := value }
  | "http_timeout_seconds" =>
    (Number.readPlainDouble? value).map fun d => { s with httpTimeoutSeconds := d }
  | "device_api_key" => some { s with deviceApiKey := value }
  | "ac_min_temperature" =>
    (Number.readPlainDouble? value).map fun d => { s with acMinTemperature := d }
  | "ac_max_temperature" =>
    (Number.readPlainDouble? value).map fun d => { s with acMaxTemperature := d }
  | "log_file" => some { s with logFile := value }
  | "log_level" => some { s with logLevel := value }
  | _ => some s

/-- The variables by the lower case of their names, the last of one name counting. -/
def byLowerName (environment : Table String) : Table String :=
  environment.foldl (fun table (name, value) => Table.set table (Text.lower name) value) []

/-- The settings that an environment gives, or the names of those whose values do not fit. -/
def ofEnvironment (environment : Table String) : Except (List String) Settings :=
  let (s, refused) := (byLowerName environment).foldl (fun (s, refused) (name, value) =>
    match enter s name value with
    | some s => (s, refused)
    | none => (s, refused ++ [name])) (({} : Settings), ([] : List String))
  if refused.isEmpty then .ok s else .error refused

/-- The settings by name. -/
def toJson (s : Settings) : Table Json :=
  [("app_name", .text s.appName), ("timezone", .text s.timezone), ("mode", .text s.mode),
   ("sensor_mode", .text s.sensorMode), ("poll_seconds", .integer s.pollSeconds),
   ("sqlite_path", .text s.databasePath), ("home_config_path", .text s.homeConfigPath),
   ("http_timeout_seconds", .double s.httpTimeoutSeconds),
   ("device_api_key", .text s.deviceApiKey),
   ("ac_min_temperature", .double s.acMinTemperature),
   ("ac_max_temperature", .double s.acMaxTemperature), ("log_file", .text s.logFile),
   ("log_level", .text s.logLevel)]

end Settings

end HomeAutomation
