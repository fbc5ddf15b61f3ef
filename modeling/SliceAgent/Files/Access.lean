import SliceAgent.Files.Tree
import SliceAgent.Text.Quoted

/-!
# Looking into a file tree

A path text is followed component by component (`FileTree.follow`). A link leads on from the
directory that it lies in, and at most `linkLimit` links are followed. This fails where there is
nothing to follow, where a name or the path is too long, and where the system refuses to look.

* `FileTree.read?`, `FileTree.list?` and `FileTree.readLink?` look at a file, a directory, a link;
* `FileTree.exists?` and `FileTree.isDirectory?` answer no after the errors that say that a path
  leads nowhere (`FileErrno.saysAbsent`), and fail with all others.
-/

namespace SliceAgent

/-- An error of the system, with the path that the call was made on. -/
structure FileFault where
  errno : FileErrno
  path : String
  deriving DecidableEq, Repr

/-- The wording of an error: its number, its text and the path as a literal. -/
def FileFault.message (f : FileFault) : String :=
  s!"[Errno {f.errno.number}] {f.errno.text}: " ++ Text.quoted f.path

/-- Why a call fails. A path with a null character is refused before the system is asked. -/
inductive AccessFault where
  | system (fault : FileFault)
  | nullCharacter
  deriving DecidableEq, Repr

/-- The wording of a failed call. -/
def AccessFault.message : AccessFault → String
  | .system f => f.message
  | .nullCharacter => "embedded null byte"

namespace FileTree

/-- The most octets of a name. -/
def nameLimit : Nat := 255

/-- The most octets of a path. -/
def pathLimit : Nat := 4095

/-- The most links that are followed on the way of one path. -/
def linkLimit : Nat := 40

/-- The steps of a path text. A slash at the end is an empty step, which asks for a directory. -/
def steps (s : String) : List String :=
  let parts := (splitSlashes s.toList).map String.ofList
  parts.dropLast.filter (· != "") ++ parts.getLast?.toList

/-- Where one step of a walk leads: nowhere, on to a place, or to a link that is met. -/
inductive Step where
  | stopped (errno : FileErrno)
  | on (place : Place)
  | link (target : String)

/-- The step to a name in a directory that may be searched. -/
def stepTo (t : FileTree) (place : Place) (name : String) : Step :=
  if nameLimit < name.utf8ByteSize then .stopped .nameTooLong
  else match t.node? (place ++ [name]) with
    | none => .stopped .notFound
    | some (.inaccessible errno) => .stopped errno
    | some (.link target) => .link target
    | some _ => .on (place ++ [name])

/-- One step from a place. -/
def stepFrom (t : FileTree) (place : Place) (step : String) : Step :=
  match t.node? place with
  | some (.directory searching _) =>
    -- The right to search is asked for by every step but the empty one, the dotted ones included.
    if step = "" then .on place
    else match searching with
      | some errno => .stopped errno
      | none =>
        if step = "." then .on place
        else if step = ".." then .on place.dropLast
        else t.stepTo place step
  | _ => .stopped .notDirectory

/-- How far a walk gets without following a link. -/
inductive Advance where
  | arrived (place : Place)
  | stopped (errno : FileErrno)
  | link (place : Place) (target : String) (rest : List String)

/-- Walks from a place. A link is met where the walk goes on behind it, or at the end if the last
link is to be followed too. -/
def advance (t : FileTree) (followLast : Bool) (place : Place) : List String → Advance
  | [] => .arrived place
  | step :: rest =>
    match t.stepFrom place step with
    | .stopped errno => .stopped errno
    | .on p => advance t followLast p rest
    | .link target =>
      -- A link in the middle of a path always leads on.
      if rest.isEmpty && !followLast then .arrived (place ++ [step])
      else .link place target rest

/-- Where a path text starts. -/
def startOf (at_ : Place) (s : String) : Place :=
  if s.startsWith "/" then [] else at_

/-- Walks from a place, following links as long as the budget lasts. -/
def walk (t : FileTree) (followLast : Bool) : Nat → Place → List String → Except FileErrno Place
  | budget, place, rest =>
    match t.advance followLast place rest, budget with
    | .arrived place, _ => .ok place
    | .stopped errno, _ => .error errno
    | .link _ _ _, 0 => .error .tooManyLinks
    | .link place target rest, budget + 1 =>
      -- The steps of the target come before those that were left; `place` is the link's directory.
      t.walk followLast budget (startOf place target) (steps target ++ rest)

/-- The place that a path text leads to. -/
def follow (t : FileTree) (followLast : Bool) (path : String) : Except FileErrno Place :=
  if pathLimit < path.utf8ByteSize then .error .nameTooLong
  else if path = "" then .error .notFound
  else t.walk followLast linkLimit (startOf t.working path) (steps path)

/-- Follows a path for a call, whose own outcome is `call`. -/
def access {α : Type} (t : FileTree) (followLast : Bool) (path : Path)
    (call : Place → FileNode → Except FileErrno α) : Except AccessFault α :=
  if path.text.toList.contains (Char.ofNat 0) then .error .nullCharacter
  else
    let outcome := (t.follow followLast path.text).bind fun place =>
      (t.node? place).elim (.error .notFound) (call place)
    outcome.mapError fun errno => .system ⟨errno, path.text⟩

/-- The octets of a file. -/
def read? (t : FileTree) (path : Path) : Except AccessFault (List UInt8) :=
  t.access true path fun _ node => match node with
    | .file octets reading => reading.elim (.ok octets) .error
    | .inaccessible errno => .error errno
    | _ => .error .isDirectory

/-- The names in a directory. -/
def list? (t : FileTree) (path : Path) : Except AccessFault (List String) :=
  t.access true path fun place node => match node with
    | .directory _ listing => listing.elim (.ok (t.namesIn place)) .error
    | .inaccessible errno => .error errno
    | _ => .error .notDirectory

/-- The target of a link. -/
def readLink? (t : FileTree) (path : Path) : Except AccessFault String :=
  t.access false path fun _ node => match node with
    | .link target => .ok target
    | .inaccessible errno => .error errno
    | _ => .error .invalid

end FileTree

/-- The numbers of the errors that say that a path leads nowhere: nothing there, no open file, no
directory on the way, too many links. -/
def FileErrno.absentNumbers : List Nat :=
  [2, 9, 20, 40]

/-- Whether an error says that a path leads nowhere. -/
def FileErrno.saysAbsent (errno : FileErrno) : Bool :=
  absentNumbers.contains errno.number

namespace FileTree

/-- Answers no where a path leads nowhere. -/
def orAbsent (outcome : Except AccessFault Bool) : Except FileFault Bool :=
  match outcome with
  | .ok b => .ok b
  | .error (.system f) => if f.errno.saysAbsent then .ok false else .error f
  | .error .nullCharacter => .ok false

/-- Whether a path leads somewhere. -/
def exists? (t : FileTree) (path : Path) : Except FileFault Bool :=
  orAbsent (t.access true path fun _ _ => .ok true)

/-- Whether a path leads to a directory. -/
def isDirectory? (t : FileTree) (path : Path) : Except FileFault Bool :=
  orAbsent (t.access true path fun _ node => .ok node.isDirectory)

/-- Whether a path is known to lead to a file. -/
def leadsToFile (t : FileTree) (path : Path) : Bool :=
  ((t.access true path fun _ node => .ok node.isFile).toOption).getD false

end FileTree

end SliceAgent
