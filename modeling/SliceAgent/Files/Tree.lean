import SliceAgent.Files.Path
import SliceAgent.Text.Encoding

/-!
# File trees

A `FileTree` is what a file system holds at one moment: files with their octets, directories, and
symbolic links with their targets, each under its place, the names on the way down from the root.
It has a working directory, from which paths that do not begin with a slash are followed. What the
system refuses at an entry, for want of a right or because a device fails, is part of the entry.

The operations here put entries at places; they follow no link.
-/

namespace SliceAgent

/-- The errors of the system. -/
inductive FileErrno where
  | notFound
  | permissionDenied
  | notDirectory
  | isDirectory
  | invalid
  | nameTooLong
  | tooManyLinks
  /-- Any other error, such as that of a device or of a server that fails. -/
  | other (number : Nat) (text : String)
  deriving DecidableEq, Repr

namespace FileErrno

/-- The number of an error. -/
def number : FileErrno → Nat
  | .notFound => 2
  | .permissionDenied => 13
  | .notDirectory => 20
  | .isDirectory => 21
  | .invalid => 22
  | .nameTooLong => 36
  | .tooManyLinks => 40
  | .other number _ => number

/-- The text of an error. -/
def text : FileErrno → String
  | .notFound => "No such file or directory"
  | .permissionDenied => "Permission denied"
  | .notDirectory => "Not a directory"
  | .isDirectory => "Is a directory"
  | .invalid => "Invalid argument"
  | .nameTooLong => "File name too long"
  | .tooManyLinks => "Too many levels of symbolic links"
  | .other _ text => text

end FileErrno

/-- One entry of a file tree, with the errors that the system answers requests on it with. -/
inductive FileNode where
  | file (octets : List UInt8) (reading : Option FileErrno := none)
  /-- A directory. Searching it is looking an entry up in it, listing it is asking for all names. -/
  | directory (searching : Option FileErrno := none) (listing : Option FileErrno := none)
  | link (target : String)
  /-- An entry that has a name and cannot be looked at. -/
  | inaccessible (errno : FileErrno)
  deriving DecidableEq, Repr

namespace FileNode

/-- Whether an entry is a file, readable or not. -/
def isFile : FileNode → Bool
  | .file _ _ => true
  | _ => false

/-- Whether an entry is a directory, whatever it is refused to do with it. -/
def isDirectory : FileNode → Bool
  | .directory _ _ => true
  | _ => false

/-- Whether there is the right to read a file, or to list a directory. -/
def mayRead : FileNode → Bool
  | .file _ reading => reading != some .permissionDenied
  | .directory _ listing => listing != some .permissionDenied
  | _ => true

end FileNode

/-- The names on the way down from the root. -/
abbrev Place := List String

/-- The entries of a file system and its working directory. The root is always there. -/
structure FileTree where
  nodes : List (Place × FileNode)
  working : Place
  deriving Repr

namespace FileTree

/-- The directories on the way to a place, the root left out. -/
def ancestors (place : Place) : List Place :=
  (List.range place.length).drop 1 |>.map (place.take ·)

/-- The entry at a place. -/
def node? (t : FileTree) (place : Place) : Option FileNode :=
  if place = [] then some .directory else (t.nodes.find? (·.1 == place)).map (·.2)

/-- Puts an entry at a place, instead of the one that is there. -/
def put (place : Place) (node : FileNode) (t : FileTree) : FileTree :=
  { t with nodes := t.nodes.filter (·.1 != place) ++ [(place, node)] }

/-- Makes a place a directory unless something is there. -/
def makeDirectory (place : Place) (t : FileTree) : FileTree :=
  if (t.node? place).isSome then t else t.put place .directory

/-- Puts an entry at a place and makes the directories on the way to it. -/
def insert (place : Place) (node : FileNode) (t : FileTree) : FileTree :=
  ((ancestors place).foldl (fun t p => t.makeDirectory p) t).put place node

/-- Makes a place and those on the way to it directories. -/
def insertDirectory (place : Place) (t : FileTree) : FileTree :=
  (ancestors place ++ [place]).foldl (fun t p => t.makeDirectory p) t

/-- Removes the entry at a place and everything below it. -/
def erase (place : Place) (t : FileTree) : FileTree :=
  { t with nodes := t.nodes.filter fun n => !place.isPrefixOf n.1 }

/-- The name of an entry that lies directly in a directory. -/
def nameIn? (directory : Place) (n : Place × FileNode) : Option String :=
  if n.1.dropLast = directory then n.1.getLast? else none

/-- The names of the entries that lie directly in a directory. -/
def namesIn (t : FileTree) (directory : Place) : List String :=
  (t.nodes.filterMap (nameIn? directory)).eraseDups

/-- A tree that holds nothing but its working directory. -/
def empty (working : Place) : FileTree :=
  insertDirectory working ⟨[], working⟩

/-- The place that a relative path text denotes in the working directory. -/
def placeOf (t : FileTree) (path : String) : Place :=
  t.working ++ components path

end FileTree

/-- One change of a file tree, at a path in the working directory. -/
inductive FileChange where
  | directory (path : String)
  | file (path : String) (octets : List UInt8)
  | link (path target : String)
  | remove (path : String)

/-- Makes a change. -/
def FileTree.apply (t : FileTree) : FileChange → FileTree
  | .directory path => t.insertDirectory (t.placeOf path)
  | .file path octets => t.insert (t.placeOf path) (.file octets)
  | .link path target => t.insert (t.placeOf path) (.link target)
  | .remove path => t.erase (t.placeOf path)

/-- Makes changes one after another. -/
def FileTree.applyAll (t : FileTree) (changes : List FileChange) : FileTree :=
  changes.foldl apply t

end SliceAgent
