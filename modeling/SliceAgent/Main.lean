import SliceAgent.Agent.Host
import SliceAgent.Json.Reader
import SliceAgent.CommandLine.Program

/-!
# Command line

The program reads a snapshot of its surroundings from standard input, runs on it with its
arguments, and writes the log to standard output and errors to standard error.

A snapshot describes the surroundings of a program in one JSON object: the variables of the
environment under `environment`, the entries of the file system under `directories`, `files` and
`links`, and under `time` the time that log lines show. Paths are relative to the working
directory. No cluster answers.
-/

namespace SliceAgent.CommandLine

/-- The directory that the paths of a snapshot are relative to. -/
def snapshotDirectory : Place := ["run", "agent"]

/-- The texts in the fields of an object. -/
def textFields : Option Json → List (String × String)
  | some (.obj fields) => fields.filterMap fun (name, v) => v.text?.map (name, ·)
  | _ => []

/-- The texts in a list. -/
def textItems : Option Json → List String
  | some (.arr items) => items.filterMap Json.text?
  | _ => []

/-- The changes that make the files of a snapshot. -/
def changesOfSnapshot (fields : List (String × Json)) : List FileChange :=
  (textItems (Json.field? "directories" fields)).map .directory ++
    (textFields (Json.field? "files" fields)).map (fun (p, s) => .file p (Text.Utf8.encode s)) ++
    (textFields (Json.field? "links" fields)).map (fun (p, target) => .link p target)

/-- The answer of a cluster that cannot be reached. -/
def unreachable : Reply :=
  .error (.transport ⟨"ConnectionError", "the cluster cannot be reached"⟩)

/-- The host that a snapshot describes; `none` if it is no JSON object. -/
def hostOfSnapshot? (text : String) : Option Host :=
  match Json.parse? text with
  | some (.obj fields) => some
    { files := (FileTree.empty snapshotDirectory).applyAll (changesOfSnapshot fields)
      environment := textFields (Json.field? "environment" fields)
      cluster := fun _ => unreachable
      time := ((Json.field? "time" fields).bind Json.text?).getD "" }
  | _ => none

end SliceAgent.CommandLine

open SliceAgent CommandLine

/-- Runs the program. -/
def main (args : List String) : IO UInt32 := do
  match hostOfSnapshot? (← (← IO.getStdin).readToEnd) with
  | none =>
    IO.eprintln (Exit.errorLine "the snapshot is no JSON object")
    return 1
  | some host =>
    let (exit, host) := perform host args
    host.output.forM IO.println
    exit.errors.forM IO.eprintln
    exit.fault.forM fun f => IO.eprintln f.message
    return exit.code.toUInt32
