import SliceAgent.Kubeconfig.Launch
import SliceAgent.Kubeconfig.Node
import SliceAgent.Kubeconfig.Provider

/-!
# Credentials of a user

A user is known to a cluster by a token or by a name and a password. The ways to a token are tried
one after another: that of a provider, that in the configuration or in a file, and that of a
command. No command can be run: why not is noted, and the next way is tried.

A user may leave the token to a command, with arguments and settings of its own. No command can be
started here, and nothing hangs on it: `Command.refusal` tells what there is to say of it, which is
what is wrong with its description, or that there is no such command.
-/

namespace SliceAgent.Kubeconfig.Command

/-- A step that ends with what there is to say. -/
abbrev Attempt := Except String

/-! ### Parts of a description -/

/-- Whether a value holds a key. -/
def holds (n : Node) (key : String) : Attempt Bool :=
  (n.holds key).mapError fun _ => n.notAsked

/-- The value under a key, which has to be there. -/
def get (n : Node) (key : String) : Attempt Node :=
  (n.get key).mapError fun
    | .wrongKind => n.value.notLookedInto
    | f => f.message

/-- Whether the value under a key is there and counts as present. -/
def isGiven (n : Node) (key : String) : Attempt Bool :=
  match n.get? key with
  | .ok v => .ok ((v.map (·.isTruthy)).getD false)
  | .error .noAttribute => .error (n.lacks "safe_get")
  | .error _ => .error n.value.notLookedInto

/-- The value under a number, which has to be there and not nothing. -/
def numbered (origin : Origin) (i : Nat) (found : Option Yaml.Value) : Attempt Node :=
  match found.filter (!·.isNull) with
  | none => .error (KubeconfigFault.missingKey (toString i) origin.place).message
  | some v =>
    let place := { origin with place := s!"{origin.place}/{i}" }
    .ok ⟨v, if v.isTree then some place else none⟩

/-- The items of a value, each of which may be a fault. Those of a list have numbers, from zero on.
A mapping is asked for one number after another until it has none. -/
def items (n : Node) : Attempt (List (Attempt Node)) :=
  match n.origin, n.value.cell?, n.value.parts? with
  | some origin, some (.map entries), _ =>
    .ok ((List.range (entries.length + 1)).map fun i =>
      numbered origin i (n.value.under? (.int i)))
  | some origin, _, some parts => .ok (parts.mapIdx fun i v => numbered origin i (some v))
  | some _, _, none => .ok []
  | none, _, some parts => .ok (parts.map fun v => .ok ⟨v, none⟩)
  | none, _, none => .error n.value.noParts

/-- The word that a value is. -/
def wordOf (n : Node) : LaunchWord :=
  match n.origin, n.value.atom? with
  | none, some (.text t) => .text t
  | none, some (.bytes octets) => .octets octets
  | _, _ => .other n.kindName

/-- Gives a setting a value, in its place if it is there and else at the end. Nodes with an origin
are all different settings. -/
def setSetting (name value : Node) : List (Node × Node) → List (Node × Node)
  | [] => [(name, value)]
  | (m, v) :: rest =>
    if m.same name then (m, value) :: rest else (m, v) :: setSetting name value rest

/-- Adds the setting that an item gives. A set cannot be a name. -/
def addSetting (found : List (Node × Node)) (item : Attempt Node) :
    Attempt (List (Node × Node)) := do
  let n ← item
  let name ← get n "name"
  let value ← get n "value"
  if name.kindName = "set" then throw "unhashable type: 'set'"
  return setSetting name value found

/-- The name of the setting that tells the command about its cluster. -/
def toldName : String := "KUBERNETES_EXEC_INFO"

/-- What is told to a command about a cluster, if it asks for that. -/
def checkTold (version cluster : Node) (isAsked : Bool) : Attempt Unit := do
  let tellsCluster := isAsked && cluster.isTruthy
  if tellsCluster then Told.checkExtensions cluster.value
  if version.origin.isSome then throw (Told.unwritable version.kindName)
  Told.check version.value
  if tellsCluster then Told.check cluster.value

/-! ### Starting -/

/-- The command that a user describes. -/
def described (cluster user : Node) : Attempt Launch := do
  let directory ← cluster.directory.mapError fun _ => cluster.lacks "path"
  let description ← get user "exec"
  for key in ["command", "apiVersion"] do
    if !(← holds description key) then throw s!"exec: malformed request. missing key '{key}'"
  let version ← get description "apiVersion"
  let command ← get description "command"
  let words ← if ← isGiven description "args" then do
      (← items (← get description "args")).mapM id
    else pure []
  let settings ← if ← isGiven description "env" then do
      (← items (← get description "env")).foldlM addSetting []
    else pure []
  checkTold version cluster (← isGiven description "provideClusterInfo")
  let settings := settings.filter fun e => !e.1.isText toldName
  return { command := wordOf command, arguments := words.map wordOf
           settings := settings.map fun e => (wordOf e.1, wordOf e.2)
           directory := some directory.normal }

/-- What there is to say of the command of a user, which is not started. -/
def refusal (t : FileTree) (cluster user : Node) : String :=
  match described cluster user with
  | .ok launch => (launch.fault t).message
  | .error text => text

end SliceAgent.Kubeconfig.Command

namespace SliceAgent.Kubeconfig

/-! ### Tokens -/

/-- A step of loading a configuration; what was noted stays noted if it fails. -/
abbrev Loading := ExceptT KubeconfigFault (StateM (List String))

/-- Adds a note. -/
def note (s : String) : Loading Unit :=
  modify (· ++ [s])

/-- The text of a file that a configuration names. -/
def readText (t : FileTree) (path : Path) : Except KubeconfigFault String := do
  match t.read? path with
  | .ok octets => (Text.Utf8.decode octets).mapError .undecodable
  | .error (.system f) => throw (.access f)
  | .error .nullCharacter => throw .nullCharacter

/-- Whether a user has a token, in the configuration or in a file. -/
def ownToken (t : FileTree) (user : Node) : Except KubeconfigFault Bool := do
  let directory ← user.directory
  if ← user.holds "token" then
    let token ← user.get "token"
    if token.isTruthy ∧ token.origin.isNone then
      let _ ← Node.shown token.value
    return token.isTruthy
  else if ← user.holds "tokenFile" then
    let path ← user.fileUnder "tokenFile" directory
    if let some name := (← user.get "tokenFile").points? then
      if let some problem := Text.Encoding.fileName.fault? name then throw (.unencodable problem)
    return (← readText t path) != ""
  else return false

/-! ### Names and passwords -/

/-- The text under a key, which is to be joined to others. -/
def wordUnder (user : Node) (key : String) : Except KubeconfigFault Text.CodeText := do
  match (← user.get key).points? with
  | some t => return t
  | none => throw .wrongKind

/-- Checks a name and a password, which have to be sent octet by octet. -/
def checkPassword (user : Node) : Except KubeconfigFault Unit := do
  if !(← user.holds "username") then return
  if !(← user.holds "password") then return
  let name ← wordUnder user "username"
  let word := name ++ .char ':' :: (← wordUnder user "password")
  if let some problem := Text.Encoding.octets.fault? word then throw (.unencodable problem)

/-- Checks the credentials of a user, as far as they are looked at. -/
def checkCredentials (t : FileTree) (cluster user : Node) : Loading Unit := do
  if ← providerToken t user then return
  if ← ownToken t user then return
  if ← user.holds "exec" then note (Command.refusal t cluster user)
  checkPassword user

end SliceAgent.Kubeconfig
