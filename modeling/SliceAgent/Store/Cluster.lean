import SliceAgent.Store.Fault
import SliceAgent.Slice.Manifest
import SliceAgent.Log

/-!
# The store in the cluster

The cluster is reached through three calls, `Call`, each answered by a `Reply`. What a client does
is an `Exchange`: it asks a call and goes on with the reply, or it is done. So the replies can come
from a list, from a model of a server, or from one that other clients write to between the calls.

`ClusterStore.upsert` gets the object of the slice's name, then creates it if it is absent, and
else replaces it under the version just read, so that a write in between is noticed.
-/

namespace SliceAgent

/-- A call of the cluster. -/
inductive Call where
  | get (name : Json)
  | create (body : Json)
  | replace (name body : Json)
  deriving DecidableEq

/-- What the cluster answers. -/
abbrev Reply := Except ApiFailure Json

/-- What a client does: it is done, or it asks a call and goes on with the reply. -/
inductive Exchange (α : Type) where
  | done (result : α)
  | ask (call : Call) (next : Reply → Exchange α)

namespace Exchange

variable {α β σ : Type}

/-- Runs an exchange against a server with a state; gives the result, the state and the calls. -/
def run (serve : σ → Call → Reply × σ) : Exchange α → σ → α × σ × List Call
  | .done a, s => (a, s, [])
  | .ask call next, s =>
    let (a, s', calls) := run serve (next (serve s call).1) (serve s call).2
    (a, s', call :: calls)

/-- The exchange with its result changed. -/
def map (f : α → β) : Exchange α → Exchange β
  | .done a => .done (f a)
  | .ask call next => .ask call fun r => map f (next r)

end Exchange

/-- What a failed request means for storing a slice: a failure of the store, or else a crash. -/
def ApiFailure.storeFault (verb : Verb) (name : Json) : ApiFailure → UpsertFault
  | .status code reason => .store (.refused verb name code reason)
  | .transport e => .store (.unreachable verb name e)
  | .store conflict message => .store (.reported conflict message)
  | .other e => .crash (.foreign e)

namespace ClusterStore

/-- What a reply to a get says: an object, or `none` if it is absent. -/
def found (name : Json) : Reply → Except UpsertFault (Option Json)
  | .ok .null => .ok none
  | .ok object => .ok (some object)
  | .error (.status code reason) =>
    if code = some absentStatus then .ok none
    else .error ((ApiFailure.status code reason).storeFault .get name)
  | .error failure => .error (failure.storeFault .get name)

/-- A field of an object, with a default if it is missing. -/
def fieldOf (name : String) (default : Json) : Json → Except Crash Json
  | .obj fields => .ok ((Json.field? name fields).getD default)
  | v => .error (.noObject v)

/-- The version in the metadata of an object, `null` if it has none. -/
def versionOf (object : Json) : Except Crash Json :=
  (fieldOf "metadata" (.obj []) object).bind (fieldOf "resourceVersion" .null)

/-- Writes a slice by a call and takes over the version in the answer. -/
def write (slice : Slice) (verb : Verb) (outcome : UpsertOutcome) (call : Json → Call) :
    Exchange Upserted :=
  if slice.isWritable then
    .ask (call slice.manifest) fun reply => .done <|
      match reply with
      | .error failure => ⟨slice, .error (failure.storeFault verb slice.name)⟩
      | .ok object =>
        match versionOf object with
        | .error crash => ⟨slice, .error (.crash crash)⟩
        | .ok version => ⟨{ slice with version }, .ok outcome⟩
  else .done ⟨slice, .error (.crash .digitLimit)⟩

/-- Stores a slice: one get, then one create or one replace. -/
def upsert (slice : Slice) : Exchange Upserted :=
  .ask (.get slice.name) fun reply =>
    match found slice.name reply with
    | .error fault => .done ⟨slice, .error fault⟩
    | .ok none => write { slice with version := .null } .create .created .create
    | .ok (some object) =>
      match versionOf object with
      | .error crash => .done ⟨slice, .error (.crash crash)⟩
      | .ok version => write { slice with version } .update .updated (.replace slice.name)

/-- Why no slice was fetched. -/
inductive GetFault where
  | upsert (fault : UpsertFault)
  | manifest (fault : ManifestFault)
  deriving DecidableEq

/-- The slice of a name. -/
def get (name : Json) : Exchange (Except GetFault (Option Slice)) :=
  .ask (.get name) fun reply => .done <|
    match found name reply with
    | .error fault => .error (.upsert fault)
    | .ok none => .ok none
    | .ok (some object) => ((Slice.ofManifest object).mapError .manifest).map some

end ClusterStore

/-- What the store in the cluster logs of a write. -/
def clusterRecords (u : Upserted) : List Record :=
  match u.result with
  | .ok .created => [.message .debug clusterLogger s!"Created ResourceSlice {u.slice.name.shown}"]
  | .ok .updated => [.message .debug clusterLogger s!"Updated ResourceSlice {u.slice.name.shown}"]
  | .error _ => []

end SliceAgent
