import SliceAgent.Files.Access
import SliceAgent.Text.Encoding
import SliceAgent.Text.Basic

/-!
# Starting commands

A command is started with words and settings, which have to be octets without a null. Files of a
tree are no programs, and no other programs are at hand, so that no command can be started:
`Launch.fault` tells what is found to be wrong first.

A command without a slash is looked for in the directories that the setting `PATH` names.
-/

namespace SliceAgent

/-- A word that a command is given. -/
inductive LaunchWord where
  | text (t : Text.CodeText)
  | octets (bs : List UInt8)
  /-- Something of a kind that is no word. -/
  | other (kind : String)
  deriving DecidableEq, Repr

/-- Why a command is not started. -/
inductive LaunchFault where
  /-- Something is no word. -/
  | noWord (kind : String)
  | unencodable (problem : String)
  | nullCharacter
  /-- The name of a setting holds an equals sign. -/
  | badName
  /-- The directories of programs are set twice. -/
  | twoPaths
  /-- The system refuses a command, which is shown. -/
  | system (errno : FileErrno) (command : String)
  deriving DecidableEq, Repr

/-- The wording of a fault. -/
def LaunchFault.message : LaunchFault → String
  | .noWord kind => s!"expected str, bytes or os.PathLike object, not {kind}"
  | .unencodable problem => problem
  | .nullCharacter => AccessFault.nullCharacter.message
  | .badName => "illegal environment variable name"
  | .twoPaths => "env cannot contain 'PATH' and b'PATH' keys"
  | .system errno command => s!"[Errno {errno.number}] {errno.text}: {command}"

namespace LaunchWord

/-- The octets of a word. -/
def octets? : LaunchWord → Except LaunchFault (List UInt8)
  | .text t => match Text.Encoding.fileName.fault? t with
    | some problem => .error (.unencodable problem)
    | none => .ok (Text.Encoding.fileNameOctets t)
  | .octets bs => .ok bs
  | .other kind => .error (.noWord kind)

/-- A word in quotes. -/
def quoted : LaunchWord → String
  | .text t => Text.quotedPoints t
  | .octets bs => Text.quotedOctets bs
  | .other kind => kind

/-- A text as a word. -/
def ofString (s : String) : LaunchWord :=
  .text (.ofString s)

end LaunchWord

/-- A command with its words and settings. -/
structure Launch where
  command : LaunchWord
  arguments : List LaunchWord := []
  /-- The settings beside those that are there anyway; none of them has two values. -/
  settings : List (LaunchWord × LaunchWord) := []
  /-- Where the command is started, if not in the working directory. -/
  directory : Option Path := none

namespace Launch

/-- The octet of a character. -/
def octet (c : Char) : UInt8 :=
  .ofNat c.toNat

/-- The text of the name of a file. Octets that are no text name nothing, as those with a null. -/
def nameOf (octets : List UInt8) : String :=
  match Text.Utf8.decode octets with
  | .ok s => s
  | .error _ => .ofList (octets.map fun b => if b < 0x80 then .ofNat b.toNat else Char.ofNat 0)

/-- The settings that are there anyway and that others may replace in their places. -/
def inherited : List LaunchWord :=
  ["PATH", "HOME"].map .ofString

/-- The settings in the order in which they are looked at. -/
def orderedSettings (l : Launch) : List (LaunchWord × LaunchWord) :=
  let (replacing, new) := l.settings.partition fun e => inherited.contains e.1
  replacing ++ new

/-- A setting as it is handed over. -/
def assignment (setting : LaunchWord × LaunchWord) : Except LaunchFault (List UInt8) := do
  let name ← setting.1.octets?
  if name.contains (octet '=') then throw .badName
  return name ++ octet '=' :: (← setting.2.octets?)

/-- The name of the setting for the directories of programs. -/
def pathName : String := "PATH"

/-- The directories in which programs are looked for; none if they are those of the system. -/
def directories? (l : Launch) : Except LaunchFault (Option (List (List UInt8))) := do
  if l.settings.any (·.1 == .octets (Text.Utf8.encode pathName)) then throw .twoPaths
  match l.settings.lookup (.ofString pathName) with
  | none => return none
  | some value => return some (Text.parts (octet ':') (← value.octets?))

/-- The path of a command in a directory. -/
def within (command directory : List UInt8) : List UInt8 :=
  if directory.isEmpty then command
  else if directory.getLast? = some (octet '/') then directory ++ command
  else directory ++ octet '/' :: command

/-- How the system refuses the file that a path leads to. -/
def refusal (t : FileTree) (path : List UInt8) : FileErrno :=
  match t.follow true (nameOf path) with
  | .ok _ => .permissionDenied
  | .error errno => errno

/-- How the system refuses a name that its own directories do not have. -/
def refusalOfName (name : List UInt8) : FileErrno :=
  if nameOf name ∈ ["", ".", ".."] then .permissionDenied
  else if FileTree.nameLimit < name.length then .nameTooLong
  else .notFound

/-- The refusal that counts among several: the first one that says more than that nothing is
there, or else the last one. -/
def chosen (refusals : List FileErrno) : FileErrno :=
  let telling := refusals.filter fun e => e != .notFound && e != .notDirectory
  (telling.head?.orElse fun _ => refusals.getLast?).getD .notFound

/-- The tree as it is seen from where the command is started. -/
def seenFrom (t : FileTree) (l : Launch) : FileTree :=
  match l.directory.map fun d => t.follow true d.text with
  | some (.ok place) => { t with working := place }
  | _ => t

/-- How a command is refused that is fit to be started. -/
def attempt (l : Launch) (t : FileTree) : Except LaunchFault FileErrno := do
  if let .other kind := l.command then throw (.noWord kind)
  let assignments ← l.orderedSettings.mapM assignment
  let command ← l.command.octets?
  let t := seenFrom t l
  let directories ←
    if command.contains (octet '/') then pure (some [[]]) else l.directories?
  let paths := (directories.getD [[]]).map (within command)
  if paths.any (·.contains 0) then throw .nullCharacter
  for word in l.arguments do
    if (← word.octets?).contains 0 then throw .nullCharacter
  if assignments.any (·.contains 0) then throw .nullCharacter
  return if directories.isSome then chosen (paths.map (refusal t)) else refusalOfName command

/-- What is wrong with a command. -/
def fault (l : Launch) (t : FileTree) : LaunchFault :=
  match l.attempt t with
  | .ok errno => .system errno l.command.quoted
  | .error f => f

end Launch

end SliceAgent
