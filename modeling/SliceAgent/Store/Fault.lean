import SliceAgent.Slice
import SliceAgent.Json.Writer
import SliceAgent.Files.Access

/-!
# How storing a slice ends

Storing a slice creates or updates the object of its name, or fails. A `StoreFault` is a failure
that a caller has to expect: the store refuses a slice whose version is not the stored one, or
the cluster answers with a status or cannot be reached. Anything else is a `Crash`.

`Upserted` is the outcome together with the slice as the store leaves it, whose version may have
changed even if it was not stored.
-/

namespace SliceAgent

/-- What storing a slice did. -/
inductive UpsertOutcome where
  | created
  | updated
  deriving DecidableEq, Repr

/-- The name of an outcome in records and metrics. -/
def UpsertOutcome.name : UpsertOutcome → String
  | .created => "created"
  | .updated => "updated"

/-- An error that comes from outside of the agent, by its class and text. -/
structure ForeignError where
  name : String
  message : String
  deriving DecidableEq, Repr

/-- Why a call of the cluster gives no object. -/
inductive ApiFailure where
  /-- The cluster answers with a status and a reason. -/
  | status (code : Option Int) (reason : Option String)
  /-- The cluster cannot be reached. -/
  | transport (error : ForeignError)
  /-- The client fails as a store does. -/
  | store (conflict : Bool) (message : String)
  /-- The client fails in any other way. -/
  | other (error : ForeignError)
  deriving DecidableEq, Repr

/-- The requests that a store makes of the cluster. -/
inductive Verb where
  | get
  | create
  | update
  deriving DecidableEq, Repr

/-- The name of a verb. -/
def Verb.name : Verb → String
  | .get => "get"
  | .create => "create"
  | .update => "update"

/-- The status of a request that another writer was faster than. -/
def conflictStatus : Int := 409

/-- The status of a request for an object that does not exist. -/
def absentStatus : Int := 404

/-- A failure of a store. -/
inductive StoreFault where
  /-- The version of a slice is not the stored one. -/
  | stale (name stored given : Json)
  /-- The cluster answers a request with a status. -/
  | refused (verb : Verb) (name : Json) (code : Option Int) (reason : Option String)
  /-- The cluster cannot be reached for a request. -/
  | unreachable (verb : Verb) (name : Json) (error : ForeignError)
  /-- A failure that comes from outside. -/
  | reported (conflict : Bool) (message : String)
  deriving DecidableEq

namespace StoreFault

/-- Whether another writer was faster. Reading has no conflicts. -/
def isConflict : StoreFault → Bool
  | .stale _ _ _ => true
  | .refused verb _ code _ => verb != .get && code == some conflictStatus
  | .unreachable _ _ _ => false
  | .reported conflict _ => conflict

/-- A status or reason that is not given. -/
def orNone (s : Option String) : String :=
  s.getD "None"

/-- The wording of a failure; reading reports the reason without the status. -/
def message : StoreFault → String
  | .stale name stored given =>
    s!"ResourceSlice {name.shown} has version {stored.shown}, got {given.shown}"
  | .refused .get name _ reason =>
    s!"Failed to get ResourceSlice {name.shown}: {orNone reason}"
  | .refused verb name code reason =>
    s!"Failed to {verb.name} ResourceSlice {name.shown}: " ++
      s!"{orNone (code.map toString)} {orNone reason}"
  | .unreachable verb name e =>
    s!"Failed to {verb.name} ResourceSlice {name.shown}: {e.message}"
  | .reported _ message => message

end StoreFault

/-- A failure that nothing expects. -/
inductive Crash where
  /-- A field was asked of a value that is no object. -/
  | noObject (v : Json)
  /-- A list or an object was used as a name. -/
  | noName (v : Json)
  /-- A number is too long to be written. -/
  | digitLimit
  /-- A test of the file system failed by itself. -/
  | system (fault : FileFault)
  | foreign (error : ForeignError)
  deriving DecidableEq

/-- The name of the type of a value. -/
def Json.typeName : Json → String
  | .null => "NoneType"
  | .bool _ => "bool"
  | .int _ => "int"
  | .float _ => "float"
  | .text _ | .torn _ => "str"
  | .arr _ => "list"
  | .obj _ | .table _ => "dict"

/-- The wording of a crash. -/
def Crash.message : Crash → String
  | .noObject v => "'" ++ v.typeName ++ "' object has no attribute 'get'"
  | .noName v => "unhashable type: '" ++ v.typeName ++ "'"
  | .digitLimit => digitLimitMessage
  | .system f => f.message
  | .foreign e => e.message

/-- Why a slice was not stored. -/
inductive UpsertFault where
  | store (fault : StoreFault)
  | crash (crash : Crash)
  deriving DecidableEq

/-- How storing a slice ends, and the slice afterwards. -/
structure Upserted where
  slice : Slice
  result : Except UpsertFault UpsertOutcome

end SliceAgent
