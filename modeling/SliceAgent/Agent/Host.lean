import SliceAgent.Settings
import SliceAgent.Kubeconfig
import SliceAgent.Log
import SliceAgent.Run
import SliceAgent.Settings.Environment
import SliceAgent.Metrics
import SliceAgent.Store.Cluster

/-!
# Setting an agent up

A `Host` is the process that an agent is set up in: what it can see of its surroundings, and what
earlier agents left behind. There is at most one agent at a time; asking for one again gives the
same, until the host is reset.

The settings are read from the environment once and kept. Logs, metrics and traces belong to the
process: a new agent changes the style of the log and goes on with the metrics, but it cannot serve
them a second time or be traced under a description of its own. The spans of cycles carry that
description, and are exported to an endpoint if one is configured.

`SetupFault` lists the ways in which setting an agent up, or its parts, can fail. Only a cluster
configuration that cannot be loaded is a failure that a caller has to expect.
-/

namespace SliceAgent

/-! ### The version -/

/-- The released version. -/
def version : String := "0.1.0"

/-- The commit that the agent was built from. -/
def buildCommit : String := "unknown"

/-- The version with its commit. -/
def fullVersion : String :=
  version ++ "-" ++ buildCommit

/-! ### Spans -/

/-- What spans say about the agent. -/
def spanResource (s : Settings) : List (String × Json) :=
  [("service.name", .text "accel_dra"),
   ("service.version", .text version),
   ("deployment.environment", s.observability.environment),
   ("k8s.node.name", s.driver.nodeName)]

/-- The endpoints that spans are exported to: the configured one, unless it is empty. -/
def spanEndpoints (s : Settings) : List Json :=
  if s.observability.traceEndpoint.isTruthy then [s.observability.traceEndpoint] else []

/-! ### Why an agent is not set up -/

/-- Why an agent or a part of it is not set up. -/
inductive SetupFault where
  | environment (fault : EnvironmentFault)
  | level (fault : LevelFault)
  /-- Metrics are to be served a second time. -/
  | servedTwice
  | noNode
  | interval (seconds : Binary64)
  | kubeconfig (fault : KubeconfigFault)
  /-- A path holds a null character. -/
  | nullCharacter
  deriving DecidableEq

namespace SetupFault

/-- Whether a failure is one that callers expect. -/
def isExpected : SetupFault → Bool
  | .kubeconfig f => f.isExpected
  | _ => false

/-- The wording of a failure; faults of settings are listed by their places instead. -/
def message : SetupFault → String
  | .environment (.unreadable section_) => unreadableSection section_
  | .environment (.tooDeep isArray) => Json.tooDeepMessage isArray
  | .environment (.invalid _) => ""
  | .level f => f.message
  | .servedTwice => ""
  | .noNode => "node name must be set (NODE_NAME or ACCEL_DRA_DRIVER__NODE_NAME)"
  | .interval seconds => intervalMessage seconds
  | .nullCharacter => AccessFault.nullCharacter.message
  | .kubeconfig f =>
    if f.isExpected then s!"Failed to load Kubernetes config: {f.message}" else f.message

end SetupFault

/-! ### Hosts -/

/-- An agent that was set up: its number among all of them, its settings and its log style. -/
structure Agent where
  number : Nat
  settings : Settings
  style : LogStyle
  deriving DecidableEq

/-- The process that agents are set up in. -/
structure Host where
  files : FileTree
  environment : Environment
  /-- How the cluster answers. -/
  cluster : Call → Reply
  /-- The time as it is written in the log. -/
  time : String
  /-- The settings, once they were read. -/
  loaded : Option Settings := none
  agent : Option Agent := none
  /-- The number of agents so far. -/
  count : Nat := 0
  metrics : Option Metrics := none
  /-- The ports that metrics were served on. -/
  ports : List Json := []
  isTraced : Bool := false
  /-- The style of the log that was chosen last. -/
  style : Option LogStyle := none
  /-- The style of the events of cycles, chosen when the first of them was logged. -/
  cycleStyle : Option LogStyle := none
  /-- What was written to the log, one text for each record. -/
  output : List String := []

/-- A step of setting an agent up. What it did stays done if it fails. -/
abbrev Setup := ExceptT SetupFault (StateM Host)

namespace Host

/-- Writes a record to the log. Messages keep to the level that was chosen last, events to that
of the given style. -/
def log (style : LogStyle) (r : Record) (h : Host) : Host :=
  let threshold := (h.style.getD style).threshold
  { h with output := h.output ++ (r.line? h.time threshold style).toList }

/-- Writes records one after another. -/
def logAll (style : LogStyle) (rs : List Record) (h : Host) : Host :=
  rs.foldl (fun h r => h.log style r) h

/-- The host without its agent; everything else stays. -/
def reset (h : Host) : Host :=
  { h with agent := none }

/-- The host with its settings forgotten, so that they are read again. -/
def forgetSettings (h : Host) : Host :=
  { h with loaded := none }

/-- The settings: those kept, or else those of the environment, which are kept from now on. -/
def settings : Setup Settings := do
  let h ← get
  match h.loaded with
  | some s => return s
  | none =>
    match Settings.ofEnvironment h.environment with
    | .error f => throw (.environment f)
    | .ok s =>
      set { h with loaded := some s }
      return s

/-- Chooses the log style that settings ask for. -/
def setUpLog (s : Settings) : Setup LogStyle := do
  match LogStyle.ofNames s.observability.logLevel.shown s.observability.logFormat.shown with
  | .error f => throw (.level f)
  | .ok style =>
    modify fun h => { h with style := some style }
    return style

/-- The record of a second description of the spans. -/
def tracedTwice : Record :=
  .message .warning "opentelemetry.trace" "Overriding of current TracerProvider is not allowed"

/-- Describes the spans, unless that was done before. -/
def setUpTraces (style : LogStyle) (h : Host) : Host :=
  if h.isTraced then h.log style tracedTwice else { h with isTraced := true }

/-- Keeps metrics from now on, and serves them if that is asked for. -/
def setUpMetrics (s : Settings) (serve : Bool) : Setup Unit := do
  let h ← get
  if serve && s.server.enableMetrics.isTruthy then
    -- Their names are taken for as long as the process lives.
    if h.metrics.isSome then throw .servedTwice
    set { h with metrics := some {}, ports := h.ports ++ [s.server.metricsPort] }
  else set { h with metrics := some (h.metrics.getD {}) }

/-- What the metrics say about an agent. -/
def infoLabels (s : Settings) : List (String × String) :=
  [("version", fullVersion), ("driver", s.driver.name.shown), ("node", s.driver.nodeName.shown)]

/-- The record of an agent that was set up. -/
def initialized (s : Settings) : Record :=
  .event .info "accel_dra_container_initialized"
    [("environment", s.observability.environment), ("driver", s.driver.name),
     ("node", s.driver.nodeName)]

/-- The agent, with the settings given or else those of the environment if there is none yet. -/
def setUp (given : Option Settings) (serve : Bool) : Setup Agent := do
  match (← get).agent with
  | some a => return a
  | none =>
    let s ← match given with
      | some s => pure s
      | none => settings
    -- A step that fails leaves no agent, but what the steps before it did stays.
    let style ← setUpLog s
    modify (setUpTraces style)
    setUpMetrics s serve
    let h ← get
    let a : Agent := ⟨h.count + 1, s, style⟩
    set <| Host.log style (initialized s)
      { h with
        metrics := h.metrics.map fun m => { m with info := infoLabels s }
        agent := some a
        count := a.number }
    return a

end Host

end SliceAgent
