import SliceAgent.Json.Reader
import SliceAgent.Kubeconfig.Address
import SliceAgent.Kubeconfig.Launch
import SliceAgent.Text.Encoding
import SliceAgent.Yaml.Fault

/-!
# Faults of cluster configurations

`KubeconfigFault` lists why no configuration of a cluster is loaded. Callers expect that files are
absent and that entries are missing; all other faults are those of values that nobody wrote with
care, and they are told apart by their causes alone.
-/

namespace SliceAgent

/-- Why no cluster configuration is loaded. -/
inductive KubeconfigFault where
  /-- No file exists. -/
  | absent
  | access (fault : FileFault)
  | empty (path : String)
  /-- An object lacks a key, or has nothing under it. -/
  | missingKey (key place : String)
  /-- An entry of a list has no name. -/
  | unnamed (place : String)
  /-- No entry of a list has the name. -/
  | noSuch (name place : String)
  /-- A file that a configuration names is none. -/
  | noFile (path : String)
  /-- A command that is to give a token is empty. -/
  | emptyCommand
  /-- Scopes are given for a command. -/
  | scopesOfCommand
  | undecodable (fault : Text.Utf8.Fault)
  /-- A file is no YAML document. -/
  | illFormed (path : String) (fault : Yaml.Fault)
  /-- An entry without a name stands beside others. -/
  | noName
  /-- A value is not of the kind that is asked for. -/
  | wrongKind
  /-- A value is of a kind that has nothing like what is asked for. -/
  | noAttribute
  /-- A whole number is too long to be shown. -/
  | tooLong
  | notBase64 (fault : Text.Base64.Fault)
  /-- A text holds a character that cannot be sent. -/
  | unencodable (problem : String)
  /-- A text in base 64 holds characters beyond ASCII. -/
  | notAscii
  | nullCharacter
  /-- A time has a part out of its range, or is not written as it has to be. -/
  | badTime (problem : String)
  /-- A time has no date. -/
  | noDate
  /-- A number of seconds is too great for the system. -/
  | hugeTime
  /-- The year of a number of seconds is too great for the system. -/
  | hugeYear
  /-- The claims of a token are no JSON text. -/
  | claims (text : String) (fault : Json.ReadFault)
  /-- A token has expired whose issuer cannot be asked for another. -/
  | issuer (fault : Issuer.Fault)
  /-- A command that is to give a token has no name. -/
  | noCommand
  /-- A command that is to give a token is not started. -/
  | launch (fault : LaunchFault)
  /-- The cluster is to be reached through a proxy that is not used. -/
  | proxy (fault : Proxy.Fault)
  /-- A token has expired that only a library could replace. -/
  | noLibrary
  deriving DecidableEq

namespace KubeconfigFault

/-- Whether a fault is one that callers expect. -/
def isExpected : KubeconfigFault → Bool
  | .absent | .access _ | .empty _ | .missingKey _ _ | .unnamed _ | .noSuch _ _ | .noFile _
  | .emptyCommand | .scopesOfCommand | .hugeYear | .launch (.system _ _) => true
  | _ => false

/-- The wording of a fault; those of a wrong kind have none. -/
def message : KubeconfigFault → String
  | .absent => "Invalid kube-config file. No configuration found."
  | .access f => f.message
  | .empty path => s!"Invalid kube-config. {path} file is empty"
  | .missingKey key place => s!"Invalid kube-config file. Expected key {key} in {place}"
  | .unnamed place =>
    s!"Invalid kube-config file. Expected all values in {place} list to have 'name' key"
  | .noSuch name place =>
    s!"Invalid kube-config file. Expected object with name {name} in {place} list"
  | .noFile path => s!"File does not exist: {path}"
  | .emptyCommand =>
    "missing access token cmd (cmd-path is an empty string in your kubeconfig file)"
  | .scopesOfCommand => "scopes can only be used when kubectl is using a gcp service account key"
  | .undecodable f => f.message
  | .illFormed path f => f.message path
  | .noName => "'name'"
  | .wrongKind | .noAttribute => ""
  | .tooLong => digitLimitMessage
  | .notBase64 f => f.message
  | .unencodable problem | .badTime problem => problem
  | .notAscii => "string argument should contain only ASCII characters"
  | .nullCharacter => AccessFault.nullCharacter.message
  | .noDate => "date value out of range"
  | .hugeTime => "timestamp out of range for platform time_t"
  | .hugeYear => "[Errno 75] Value too large for defined data type"
  | .claims text fault => fault.message text
  | .issuer f => f.message
  | .noCommand => "list index out of range"
  | .launch f => f.message
  | .proxy f => f.message
  | .noLibrary => "refresh token error, adal library not imported"

end KubeconfigFault

end SliceAgent
