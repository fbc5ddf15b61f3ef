import SliceAgent.Settings.Check
import SliceAgent.Json.Reader

/-!
# Settings from the environment

A variable `ACCEL_DRA_<SECTION>__<FIELD>` sets one setting, and `ACCEL_DRA_<SECTION>` a whole
section as a JSON object, over which the single settings win. Names of variables and of settings
are compared without regard to case. A name that goes deeper than a setting makes the setting an
object, unless the setting is given too.

`Settings.ofEnvironment` reads all sections and checks them.
-/

namespace SliceAgent

/-- The variables of an environment, in their order. -/
abbrev Environment := List (String × String)

/-- Why the environment gives no settings. -/
inductive EnvironmentFault where
  /-- The variable of a section is no JSON text. -/
  | unreadable (section_ : String)
  /-- The variable of a section goes too deep. -/
  | tooDeep (isArray : Bool)
  /-- Settings break rules. -/
  | invalid (faults : List SettingFault)
  deriving DecidableEq, Repr

/-- The wording of an unreadable section. -/
def unreadableSection (section_ : String) : String :=
  s!"error parsing value for field \"{section_}\" from source \"EnvSettingsSource\""

namespace Environment

/-- The small form of a letter that is a large ASCII letter or the kelvin sign. -/
def lowerChar (c : Char) : Char :=
  if c.toNat = 0x212a then 'k' else c.toLower

/-- A name in small letters. -/
def lowerName (s : String) : String :=
  .ofList (s.toList.map lowerChar)

/-- The variables by their names in small letters; the last one of a name counts, in the place of
the first. -/
def lowered (env : Environment) : List (String × Json) :=
  Json.setFields (env.map fun (name, value) => (lowerName name, .text value)) []

/-- What the names of all variables begin with. -/
def namePrefix : String := "accel_dra_"

/-- Cuts a name at each pair of underscores. -/
def splitName : List Char → List (List Char)
  | [] => [[]]
  | '_' :: '_' :: r => [] :: splitName r
  | c :: r => match splitName r with
    | [] => [[c]]
    | p :: ps => (c :: p) :: ps

/-- Sets a value at a path of names, with objects on the way. A value on the way that is no object
stays. -/
def setPath (value : Json) : List String → List (String × Json) → List (String × Json)
  | [], fields => fields
  | [name], fields => Json.setField name value fields
  | name :: rest, fields =>
    match Json.field? name fields with
    | none => Json.setField name (.obj (setPath value rest [])) fields
    | some (.obj inner) => Json.setField name (.obj (setPath value rest inner)) fields
    | some _ => fields

/-- The part of a name behind a beginning. -/
def behind? (start name : String) : Option (List Char) :=
  if start.toList.isPrefixOf name.toList then some (name.toList.drop start.length) else none

/-- The settings of a section that have variables of their own. -/
def singleSettings (vars : List (String × Json)) (section_ : String) : List (String × Json) :=
  vars.foldl (fun fields (name, value) =>
    match behind? (namePrefix ++ section_ ++ "__") name with
    | some rest => setPath value ((splitName rest).map .ofList) fields
    | none => fields) []

end Environment

namespace Json

mutual

/-- An object with the fields of another one over its own; objects in both are merged. -/
def merge : Json → Json → Json
  | .obj fields, .obj upper => .obj (mergeFields fields upper)
  | _, v => v

/-- Fields with others over them. -/
def mergeFields (fields : List (String × Json)) : List (String × Json) → List (String × Json)
  | [] => fields
  | (name, v) :: rest =>
    let merged := match field? name fields with
      | some w => merge w v
      | none => v
    mergeFields (setField name merged fields) rest

end

end Json

namespace Settings

/-- The settings of each section. -/
def sectionNames : List (String × List String) :=
  [("driver", ["name", "node_name"]),
   ("discovery", ["sysfs_path", "rescan_interval_seconds"]),
   ("kubernetes", ["kubeconfig", "request_timeout_seconds", "dry_run"]),
   ("server", ["enable_metrics", "metrics_port"]),
   ("observability", ["log_level", "log_format", "otel_endpoint", "environment"])]

/-- Fields under the names of settings that they match without regard to case; the last one of a
name counts. -/
def matchNames (names : List String) (fields : List (String × Json)) : List (String × Json) :=
  fields.foldl (fun acc (name, v) =>
    let known := names.find? (· == Environment.lowerName name)
    Json.setField (known.getD name) v acc) []

/-- What the environment gives for a section: `none` if nothing. -/
def sectionOf (vars : List (String × Json)) (section_ : String) (names : List String) :
    Except EnvironmentFault (Option Json) :=
  let single := Environment.singleSettings vars section_
  match Json.field? (Environment.namePrefix ++ section_) vars with
  | some (.text s) =>
    match Json.read s with
    | .error (.tooDeep isArray) => .error (.tooDeep isArray)
    | .error _ => .error (.unreadable section_)
    | .ok .null => .ok none
    | .ok (.obj fields) =>
      .ok (some (.obj (matchNames names (Json.mergeFields fields single))))
    | .ok v => .ok (some v)
  | _ => .ok (if single.isEmpty then none else some (.obj (matchNames names single)))

/-- What the environment gives for all sections, or the first that cannot be read. -/
def sectionsOf (vars : List (String × Json)) :
    List (String × List String) → Except EnvironmentFault (List (String × Option Json))
  | [] => .ok []
  | (section_, names) :: rest => do
    let given ← sectionOf vars section_ names
    return (section_, given) :: (← sectionsOf vars rest)

/-- The settings that an environment gives. -/
def ofEnvironment (env : Environment) : Except EnvironmentFault Settings := do
  let sections ← sectionsOf env.lowered sectionNames
  let given (name : String) : Option Json := ((sections.find? (·.1 == name)).map (·.2)).join
  (ofSections given).mapError .invalid

end Settings

end SliceAgent
