import SliceAgent.Kubeconfig.Node
import SliceAgent.Text.Basic
import SliceAgent.Yaml.Document
import SliceAgent.Kubeconfig.Credentials
import SliceAgent.Kubeconfig.Address

/-!
# Cluster configurations

A configuration names clusters, users and contexts, each context a pair of a cluster and a user, and
says which context is the current one. `Kubeconfig.load` reads the files, looks the current context
up, and checks the user and the cluster of it as far as a connection needs them. What is wrong with
the way to the cluster is found when the connection is made (`Connection.check`).

Several files may be given, parted by colons; those that do not exist are passed over, and a tilde
in front of a path stands for the home directory. The entries of all of them are taken together:
the first entry of a name wins, and the last file that names a current context decides.
-/

namespace SliceAgent.Kubeconfig

/-! ### Taking files together -/

/-- What files say together; `path` is the first of them. -/
structure Merged where
  path : String
  current : Option Yaml.Value := none
  clusters : List Node := []
  contexts : List Node := []
  users : List Node := []

/-- Whether the name of a new entry is among those of others, which all need one. -/
def isKnown (new : Yaml.Value) : List Node → Except KubeconfigFault Bool
  | [] => .ok false
  | n :: rest => do
    let old ← n.get "name"
    match new.entries?, new.field? "name" with
    | some _, some name => if old.same ⟨name, none⟩ then return true else isKnown new rest
    | some _, none => throw .noName
    | none, _ => throw .wrongKind

/-- Adds the entries whose names are new. -/
def addEntries (path : String) : List Yaml.Value → List Node → Except KubeconfigFault (List Node)
  | [], nodes => .ok nodes
  | new :: rest, nodes => do
    if ← isKnown new nodes then addEntries path rest nodes
    else
      let place := s!"{path}/{← Node.shown new}"
      addEntries path rest (nodes ++ [⟨new, some ⟨place, path⟩⟩])

/-- The entries of a list in a file. A mapping counts as the list of its keys, and a text as that
of its characters. -/
def entriesOf (key : String) (document : Yaml.Value) : Except KubeconfigFault (List Yaml.Value) :=
  match document.field? key with
  | none => .ok []
  | some v =>
    if !v.isTruthy then .ok []
    else match v.parts? with
      | some items => .ok items
      | none => .error .wrongKind

/-- The key of the current context. -/
def currentKey : String := "current-context"

/-- Takes a further file in. -/
def merge (merged : Option Merged) (path : String) (document : Yaml.Value) :
    Except KubeconfigFault Merged := do
  if document.isNull then throw (.empty path)
  if document.entries?.isNone then
    throw (if merged.isNone then .wrongKind else .noAttribute)
  let m := merged.getD { path }
  let clusters ← addEntries path (← entriesOf "clusters" document) m.clusters
  let contexts ← addEntries path (← entriesOf "contexts" document) m.contexts
  let users ← addEntries path (← entriesOf "users" document) m.users
  let current := (document.field? currentKey).orElse fun _ => m.current
  return { m with clusters, contexts, users, current }

/-- The document in a file. -/
def readDocument (t : FileTree) (path : String) : Except KubeconfigFault Yaml.Value := do
  match (t.follow true path).toOption.bind t.node? with
  | some (.file _ (some errno)) => throw (.access ⟨errno, path⟩)
  | some (.file octets none) =>
    let text ← (Text.Utf8.decodeFile octets).mapError .undecodable
    (Yaml.read (Text.unixLines text)).mapError (.illFormed path)
  | _ => throw (.access ⟨.isDirectory, path⟩)

/-- The path of the configuration if none is given. -/
def defaultPath : String := "~/.kube/config"

/-- A path with the home directory in place of a tilde in front; none without a home directory. -/
def expandHome? (home : Option String) (path : String) : Option String :=
  match path.toList with
  | '~' :: r =>
    if r = [] ∨ r.head? = some '/' then
      home.map fun h =>
        let expanded := (h.toList.reverse.dropWhile (· == '/')).reverse ++ r
        if expanded.isEmpty then "/" else .ofList expanded
    else some path
  | _ => some path

/-- Whether a path leads to something. -/
def isPresent (t : FileTree) (path : String) : Bool :=
  ((t.follow true path).toOption.bind t.node?).isSome

/-- Takes the files of paths together. -/
def mergeFiles (t : FileTree) : List String → Option Merged → Except KubeconfigFault (Option Merged)
  | [], merged => .ok merged
  | path :: rest, merged =>
    if isPresent t path then do
      let m ← merge merged path (← readDocument t path)
      mergeFiles t rest (some m)
    else mergeFiles t rest merged

/-- Takes the files together whose paths are parted by colons in a text. -/
def readFiles (t : FileTree) (home : Option String) (paths : String) :
    Except KubeconfigFault Merged := do
  let pieces := ((Text.parts ':' paths.toList).map String.ofList).filter (· != "")
  match ← mergeFiles t (pieces.filterMap (expandHome? home)) none with
  | some m => return m
  | none => throw .absent

/-! ### The current context -/

/-- The cluster of the current context, and the user of it if there is one. -/
structure Context where
  cluster : Node
  user : Option Node

/-- Looks the current context up, with its user and its cluster. -/
def currentContext (m : Merged) : Except KubeconfigFault Context := do
  let name ← match m.current with
    | some v => if v.isNull then throw (.missingKey currentKey m.path) else pure v
    | none => throw (.missingKey currentKey m.path)
  let origin : Origin := ⟨s!"{m.path}/{currentKey}", m.path⟩
  let entry ← Node.named s!"{m.path}/contexts" ⟨name, if name.isTree then some origin else none⟩
    m.contexts
  let context ← entry.get "context"
  let userName ← context.get? "user"
  let user ←
    if (userName.map (·.isTruthy)).getD false ∧ !m.users.isEmpty then do
      match ← Node.named? s!"{m.path}/users" (← context.get "user") m.users with
      | some entry => some <$> entry.get "user"
      | none => pure none
    else pure none
  let cluster ← Node.named s!"{m.path}/clusters" (← context.get "cluster") m.clusters
  return { cluster := ← cluster.get "cluster", user := user.filter Node.isTruthy }

/-! ### Connecting -/

/-- The key under which the content of a file may be given instead of its path. -/
def dataKey (key : String) : String :=
  key ++ "-data"

/-- Checks the file that a node names under a key, or the content that it gives instead. -/
def checkFile (t : FileTree) (directory : Path) (key : String) (n : Node) :
    Except KubeconfigFault Unit := do
  if ← n.holds (dataKey key) then
    let content ← n.get (dataKey key)
    if content.isTruthy then
      let digits ← match content.points?, content.value.atom? with
        | some text, _ => match Text.Encoding.utf8.fault? text with
          | some problem => throw (.unencodable problem)
          | none => pure (Text.Utf8.encode text.shown)
        | none, some (.bytes octets) => pure octets
        | none, _ => throw .wrongKind
      let _ ← (Text.Base64.decodeOctets digits).mapError .notBase64
  else if ← n.holds key then
    let path ← n.fileUnder key directory
    if !t.leadsToFile path then throw (.noFile path.text)

/-- The text of a node that is asked for what only texts have. -/
def textOf (n : Node) : Except KubeconfigFault Text.CodeText :=
  match n.points?, n.value.atom? with
  | some text, _ => .ok text
  | none, some (.bytes _) => .error .wrongKind
  | none, _ => .error .noAttribute

/-- The server of a cluster that names none. -/
def defaultServer : String := "http://localhost"

/-- Whether a server is reached under its certificate. -/
def isSecure (server : Text.CodeText) : Bool :=
  server.shown.startsWith "https"

/-- How a cluster is reached: its server, and the proxy in front of it if one is named. -/
structure Connection where
  server : Text.CodeText
  proxy : Option Node

/-- What the configuration says about a cluster, with the certificate of its user checked too. -/
def connection (t : FileTree) (c : Context) : Except KubeconfigFault Connection := do
  let mut server := .ofString defaultServer
  if ← c.cluster.holds "server" then
    server ← textOf (← c.cluster.get "server")
    if isSecure server then
      let directory ← c.cluster.directory
      checkFile t directory "certificate-authority" c.cluster
      if let some user := c.user then
        checkFile t directory "client-certificate" user
        checkFile t directory "client-key" user
  for key in ["insecure-skip-tls-verify", "tls-server-name"] do
    if ← c.cluster.holds key then
      let _ ← c.cluster.get key
  let proxy ←
    if ← c.cluster.holds "proxy-url" then some <$> c.cluster.get "proxy-url" else pure none
  return { server, proxy }

/-- The URL of the proxy, if there is one: the one that is named, or else that of the environment.
What is named need not be a text. -/
def Connection.proxyUrl? (environment : List (String × String)) (c : Connection) :
    Option (Except KubeconfigFault Text.CodeText) :=
  match c.proxy with
  | some proxy => if proxy.isTruthy then some (textOf proxy) else none
  | none => (Proxy.lastValue? environment Proxy.urlVariables).map fun url => .ok (.ofString url)

/-- Checks a connection as it is made, before anything is sent. -/
def Connection.check (environment : List (String × String)) (c : Connection) :
    Except KubeconfigFault Unit := do
  let exempt := (Proxy.lastValue? environment Proxy.exemptVariables).getD ""
  if let some url := c.proxyUrl? environment then
    if !(← (Proxy.isBypassed exempt c.server).mapError (.proxy ∘ .server)) then
      (Proxy.check (← url)).mapError .proxy

/-- Loads the configuration at paths parted by colons, or at the path that holds if none is
given. -/
def load (t : FileTree) (home : Option String) (paths : Option String) : Loading Connection := do
  let context ← currentContext (← readFiles t home (paths.getD defaultPath))
  if let some user := context.user then
    checkCredentials t context.cluster user
  connection t context

end SliceAgent.Kubeconfig
