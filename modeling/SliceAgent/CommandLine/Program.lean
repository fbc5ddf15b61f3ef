import SliceAgent.CommandLine.Value
import SliceAgent.Agent.Reconciler

/-!
# The program

`CommandLine.plan` says what the arguments and the environment come to: something to print, a
refusal, or the settings that an agent is started with. `CommandLine.perform` carries that out on
a host; a started agent runs until its stop flag is set, and its store is chosen before it runs.
-/

namespace SliceAgent.CommandLine

/-- What the arguments and the environment come to. -/
inductive Plan where
  | print (lines : List String)
  | refuse (fault : UsageFault)
  | fail (fault : SetupFault)
  | start (settings : Settings)
  deriving DecidableEq

/-- The line that tells the version. -/
def versionLine : String := s!"mock-accel DRA driver version {fullVersion}"

/-- Settings with the options over them; an agent needs a node. -/
def planOfSettings (s : Settings) (overrides : List (SettingOption × Json)) : Plan :=
  let s := s.override overrides
  if s.driver.nodeName.isTruthy then .start s else .refuse .noNode

/-- What the arguments and the environment come to. -/
def plan (t : FileTree) (env : Environment) (args : List String) : Plan :=
  match read t env args with
  | .error (.usage f) => .refuse f
  | .error .nullCharacter => .fail .nullCharacter
  | .ok .help => .print helpLines
  | .ok .version => .print [versionLine]
  | .ok (.start overrides) =>
    match Settings.ofEnvironment env with
    | .error f => .fail (.environment f)
    | .ok s => planOfSettings s overrides

/-- How the program ends: its exit code, what it wrote to the error stream, and the failure that
it did not expect. -/
structure Exit where
  code : Nat
  errors : List String := []
  fault : Option SetupFault := none
  deriving DecidableEq

namespace Exit

/-- What is written of an error. -/
def errorLine (message : String) : String := "Error: " ++ message

/-- The end of a program with bad arguments. -/
def ofUsage (f : UsageFault) : Exit where
  code := 2
  errors :=
    (if f.isSyntax then [] else [usageLine, "Try 'main --help' for help.", ""]) ++
      [errorLine f.message]

/-- The end of a program that is not set up: an expected failure is told, another one escapes. -/
def ofSetup (f : SetupFault) : Exit :=
  if f.isExpected then { code := 1, errors := [errorLine f.message] }
  else { code := 1, fault := some f }

end Exit

/-- The record of an agent that starts. -/
def starting (s : Settings) : Record :=
  .event .info "starting"
    [("version", .text fullVersion), ("driver", s.driver.name), ("node", s.driver.nodeName),
     ("sysfs_path", .text s.discovery.classPath.shown)]

/-- Starts an agent and runs it. -/
def launch (s : Settings) : Setup Unit := do
  let a ← Host.setUp (some s) true
  Host.logFor a (starting a.settings)
  let r ← Host.reconcilerFor a none
  modify fun h => (h.runUntilStopped r).2
  Host.logFor a (.event .info "exiting" [])

/-- Carries a plan out. -/
def Plan.perform (h : Host) : Plan → Exit × Host
  | .print lines => ({ code := 0 }, { h with output := h.output ++ lines })
  | .refuse f => (.ofUsage f, h)
  | .fail f => (.ofSetup f, h)
  | .start s =>
    match (launch s).run h with
    | (.ok (), h) => ({ code := 0 }, h)
    | (.error f, h) => (.ofSetup f, h)

/-- Runs the program on a host with arguments. -/
def perform (h : Host) (args : List String) : Exit × Host :=
  (plan h.files h.environment args).perform h

end SliceAgent.CommandLine
