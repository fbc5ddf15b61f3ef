import SliceAgent.Device
import SliceAgent.Json.Writer

/-!
# Settings

`Settings` holds the settings of the agent in five sections. The values are JSON, so that a value
that overrides another one may be anything; those that are read from the environment have the
types and ranges of `Settings.Check`.

The nine `SettingOption`s are the settings that the command line can override. `Settings.override`
sets each option that has a value other than `null`, and leaves everything else as it is.
-/

namespace SliceAgent

/-- Who the agent advertises for. -/
structure DriverSettings where
  name : Json := .text defaultDriver
  nodeName : Json := .text ""
  deriving DecidableEq

/-- Where devices are looked for, and how often. -/
structure DiscoverySettings where
  classPath : Json := .text "/sys/class/mock-accel"
  rescanInterval : Json := .float (.ofInt 30)
  deriving DecidableEq

/-- How the cluster is reached, if it is. -/
structure ClusterSettings where
  kubeconfig : Json := .null
  requestTimeout : Json := .null
  dryRun : Json := .bool false
  deriving DecidableEq

/-- How metrics are served. -/
structure ServerSettings where
  enableMetrics : Json := .bool true
  metricsPort : Json := .int 8080
  deriving DecidableEq

/-- What is logged and traced. -/
structure ObservabilitySettings where
  logLevel : Json := .text "INFO"
  logFormat : Json := .text "json"
  traceEndpoint : Json := .null
  environment : Json := .text "development"
  deriving DecidableEq

/-- All settings. -/
structure Settings where
  driver : DriverSettings := {}
  discovery : DiscoverySettings := {}
  cluster : ClusterSettings := {}
  server : ServerSettings := {}
  observability : ObservabilitySettings := {}
  deriving DecidableEq

/-- The settings that the command line can override. -/
inductive SettingOption where
  | driverName
  | nodeName
  | classPath
  | rescanInterval
  | kubeconfig
  | dryRun
  | metricsPort
  | logLevel
  | logFormat
  deriving DecidableEq, Repr

namespace SettingOption

/-- The option of a name. -/
def ofName? : String → Option SettingOption
  | "driver_name" => some .driverName
  | "node_name" => some .nodeName
  | "sysfs_path" => some .classPath
  | "rescan_interval" => some .rescanInterval
  | "kubeconfig" => some .kubeconfig
  | "dry_run" => some .dryRun
  | "metrics_port" => some .metricsPort
  | "log_level" => some .logLevel
  | "log_format" => some .logFormat
  | _ => none

end SettingOption

namespace Settings

/-- The value of an option. -/
def get (s : Settings) : SettingOption → Json
  | .driverName => s.driver.name
  | .nodeName => s.driver.nodeName
  | .classPath => s.discovery.classPath
  | .rescanInterval => s.discovery.rescanInterval
  | .kubeconfig => s.cluster.kubeconfig
  | .dryRun => s.cluster.dryRun
  | .metricsPort => s.server.metricsPort
  | .logLevel => s.observability.logLevel
  | .logFormat => s.observability.logFormat

/-- The settings with one option changed. -/
def set (s : Settings) (option : SettingOption) (value : Json) : Settings :=
  match option with
  | .driverName => { s with driver.name := value }
  | .nodeName => { s with driver.nodeName := value }
  | .classPath => { s with discovery.classPath := value }
  | .rescanInterval => { s with discovery.rescanInterval := value }
  | .kubeconfig => { s with cluster.kubeconfig := value }
  | .dryRun => { s with cluster.dryRun := value }
  | .metricsPort => { s with server.metricsPort := value }
  | .logLevel => { s with observability.logLevel := value }
  | .logFormat => { s with observability.logFormat := value }

theorem get_set (s : Settings) (o p : SettingOption) (v : Json) :
    (s.set o v).get p = if p = o then v else s.get p := by
  cases o <;> cases p <;> rfl

/-- The settings with one option changed unless the value is `null`. -/
def setGiven (s : Settings) (option : SettingOption) (value : Json) : Settings :=
  if value = .null then s else s.set option value

/-- The settings with options changed one after another. -/
def override (s : Settings) (values : List (SettingOption × Json)) : Settings :=
  values.foldl (fun s e => s.setGiven e.1 e.2) s

/-- Why named values are no options. -/
inductive OptionFault where
  /-- The name stands for the settings themselves. -/
  | reserved
  /-- No option has the name. -/
  | unknown (name : String)
  deriving DecidableEq, Repr

/-- The name that stands for the settings themselves. -/
def reservedName : String := "config"

/-- The options of named values, `null` ones left out, or the first name that is no option. -/
def knownOptions : List (String × Json) → Except OptionFault (List (SettingOption × Json))
  | [] => .ok []
  | (name, value) :: rest =>
    if value = .null then knownOptions rest
    else match SettingOption.ofName? name with
      | none => .error (.unknown name)
      | some o => (knownOptions rest).map ((o, value) :: ·)

/-- The options of named values; none may have the reserved name, whatever its value. -/
def optionsOfNames (values : List (String × Json)) :
    Except OptionFault (List (SettingOption × Json)) :=
  if values.any (·.1 == reservedName) then .error .reserved else knownOptions values

/-- The settings as an object. -/
def toJson (s : Settings) : Json :=
  .obj
    [("driver", .obj [("name", s.driver.name), ("node_name", s.driver.nodeName)]),
     ("discovery", .obj
       [("sysfs_path", s.discovery.classPath),
        ("rescan_interval_seconds", s.discovery.rescanInterval)]),
     ("kubernetes", .obj
       [("kubeconfig", s.cluster.kubeconfig),
        ("request_timeout_seconds", s.cluster.requestTimeout),
        ("dry_run", s.cluster.dryRun)]),
     ("server", .obj
       [("enable_metrics", s.server.enableMetrics), ("metrics_port", s.server.metricsPort)]),
     ("observability", .obj
       [("log_level", s.observability.logLevel),
        ("log_format", s.observability.logFormat),
        ("otel_endpoint", s.observability.traceEndpoint),
        ("environment", s.observability.environment)])]

end Settings

end SliceAgent
