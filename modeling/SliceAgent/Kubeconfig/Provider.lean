import SliceAgent.Kubeconfig.Expiry
import SliceAgent.Text.Basic

/-!
# Tokens of identity providers

A user may leave the token to a provider. Three providers are known, and each keeps what it gave in
its configuration: the token, and when it expires. A token that is there and has not expired is
taken as it is; none can be asked for here, so that all others are faults.

`providerToken` tells whether a user has such a token.
-/

namespace SliceAgent.Kubeconfig

/-- The key of the configuration of a provider. -/
def configKey : String := "config"

/-! ### Tokens of commands -/

/-- Whether a value that has a length has none to speak of; some values have no length at all. -/
def isEmptyWord (n : Node) : Except KubeconfigFault Bool :=
  match n.value.parts? with
  | some parts => .ok parts.isEmpty
  | none => .error .wrongKind

/-- The words of a text, between blanks. -/
def wordsOf (text : Text.CodeText) : List Text.CodeText :=
  (text.splitBy fun p q => Text.isBlank p.standIn == Text.isBlank q.standIn).filter fun w =>
    !w.all fun p => Text.isBlank p.standIn

/-- Whether an octet is a blank of ASCII. -/
def isBlankOctet (b : UInt8) : Bool :=
  b == 0x20 || (9 ≤ b && b ≤ 13)

/-- The words of a value; the words of octets cannot be joined to others. -/
def argumentsOf (n : Node) : Except KubeconfigFault (List Text.CodeText) :=
  match n.points?, n.value.atom? with
  | some text, _ => .ok (wordsOf text)
  | none, some (.bytes octets) =>
    if octets.all isBlankOctet then .ok [] else .error .wrongKind
  | none, _ => .error .noAttribute

/-- The command that renews a token, without arguments of its own and then with those that follow
its name. -/
def renewal (command : Node) (arguments : Option Node) : Except KubeconfigFault Launch := do
  match arguments with
  | some n =>
    let words ← argumentsOf n
    match command.points? with
    | some name => return { command := .text name, arguments := words.map .text }
    | none => throw .wrongKind
  | none =>
    match command.points?, command.value.atom? with
    | some text, _ => match wordsOf text with
      | [] => throw .noCommand
      | name :: words => return { command := .text name, arguments := words.map .text }
    | none, some (.bytes octets) =>
      throw (if octets.all isBlankOctet then .noCommand else .wrongKind)
    | none, _ => throw .noAttribute

/-- The fault of a token that a command has to renew. No command can be started, but it has to be
named. -/
def renew (t : FileTree) (provider : Node) : Except KubeconfigFault Unit := do
  if !(← provider.holds configKey) then throw .noAttribute
  let config ← provider.get configKey
  if !(← config.holds "cmd-path") then throw .noAttribute
  let command ← config.get "cmd-path"
  if ← isEmptyWord command then throw .emptyCommand
  if ← config.holds "scopes" then
    if !(← config.get "scopes").isText "" then throw .scopesOfCommand
  let arguments ← if ← config.holds "cmd-args" then some <$> config.get "cmd-args" else pure none
  throw (.launch ((← renewal command arguments).fault t))

/-- The token of a provider that is renewed by a command or not at all. -/
def commandToken (t : FileTree) (provider : Node) : Except KubeconfigFault Bool := do
  let isFresh ← (do
    if !(← provider.holds configKey) then return false
    if !(← (← provider.get configKey).holds "access-token") then return false
    if !(← (← provider.get configKey).holds "expiry") then return true
    return !(← isExpired (← (← provider.get configKey).get "expiry")))
  if !isFresh then renew t provider
  let _ ← (← provider.get configKey).get "access-token"
  return true

/-! ### Tokens of libraries -/

/-- The token of a provider whose tokens are renewed by a library. -/
def libraryToken (provider : Node) : Except KubeconfigFault Bool := do
  if !(← provider.holds configKey) then return false
  let config ← provider.get configKey
  if !(← config.holds "access-token") then return false
  if ← config.holds "expires-on" then
    if ← isPast (← config.get "expires-on") then throw .noLibrary
  let _ ← config.get "access-token"
  return true

/-! ### Signed tokens -/

/-- Checks the certificate under which a token is renewed, and where that is done. -/
def checkIssuer (config : Node) : Except KubeconfigFault Unit := do
  if ← config.holds "idp-certificate-authority-data" then
    let content ← config.get "idp-certificate-authority-data"
    let octets ← match content.points?, content.value.atom? with
      | some text, _ => Claims.octetsOf text
      | none, some (.bytes octets) => (Text.Base64.decodeOctets octets).mapError .notBase64
      | none, _ => throw .wrongKind
    let _ ← Claims.textOf octets
  else if ← config.holds "idp-certificate-authority" then
    let _ ← config.get "idp-certificate-authority"
  let issuer ← config.get "idp-issuer-url"
  if issuer.origin.isNone then
    let text ← match issuer.points? with
      | some text => pure text
      | none => Text.CodeText.ofString <$> Node.shown issuer.value
    (Issuer.check text).mapError .issuer

/-- The token of a provider that signs claims. One that is not well formed is passed over. -/
def signedToken (provider : Node) : Except KubeconfigFault Bool := do
  if !(← provider.holds configKey) then return false
  let config ← provider.get configKey
  let token ← config.get "id-token"
  let hasReserved ← ["=", "+", "/"].anyM token.holds
  if hasReserved then return false
  match token.points? with
  | none => throw .noAttribute
  | some text =>
    match Text.parts (.char '.') text with
    | [_, part, _] =>
      if part.length % 4 = 1 then return false
      if ← Claims.areExpired (← Claims.ofPart part) then checkIssuer config
      return true
    | _ => return false

/-! ### Providers -/

/-- Whether a user has the token of a provider. -/
def providerToken (t : FileTree) (user : Node) : Except KubeconfigFault Bool := do
  if !(← user.holds "auth-provider") then return false
  let provider ← user.get "auth-provider"
  if !(← provider.holds "name") then return false
  let name ← provider.get "name"
  if name.isText "gcp" then commandToken t provider
  else if name.isText "azure" then libraryToken provider
  else if name.isText "oidc" then signedToken provider
  else return false

end SliceAgent.Kubeconfig
