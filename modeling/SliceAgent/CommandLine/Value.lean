import SliceAgent.CommandLine.Parser
import SliceAgent.Decimal.Basic
import SliceAgent.Settings.Check
import SliceAgent.Files.Access

/-!
# The values of options

Each option turns its text into the value of a setting, or says why it cannot. Numerals may have
white space at their ends, digits of any script, and single underscores between digits. A path that
the system cannot be asked about is no matter of usage: it ends the program.
-/

namespace SliceAgent.CommandLine

/-- The floating-point number that a text stands for. -/
def floatOfText? (s : String) : Option Binary64 :=
  (Numeral.chars? s.toList).bind fun cs =>
    match Decimal.ofChars? Text.digitValue? cs with
    | some d => some (.ofDecimal d)
    | none => SettingCheck.floatOfWord? cs

/-- A list of choices as it is shown. -/
def choicesText (choices : List String) : String :=
  ", ".intercalate (choices.map Text.quoted)

/-- What is said of a text that is none of the choices. -/
def notAmong (s : String) (choices : List String) : String :=
  s!"{Text.quoted s} is not one of {choicesText choices}."

/-- The interval between cycles: a number that is not zero or less. -/
def intervalOfText (s : String) : Except String Json :=
  match floatOfText? s with
  | none => .error s!"{Text.quoted s} is not a valid float range."
  | some x =>
    if x.isNaN || x.isPositive then .ok (.float x)
    else .error s!"{x.text} is not in the range x>0."

/-- The port of the metrics. -/
def portOfText (s : String) : Except String Json :=
  match Numeral.int? 10 s.toList with
  | none => .error s!"{Text.quoted s} is not a valid integer range."
  | some n =>
    if Settings.portMin ≤ n ∧ n ≤ Settings.portMax then .ok (.int n)
    else .error s!"{n} is not in the range {Settings.portMin}<=x<={Settings.portMax}."

/-- A level of the log, in letters of any case. -/
def levelOfText (s : String) : Except String Json :=
  let small (t : String) : String := .ofList (t.toList.map Char.toLower)
  match Settings.logLevels.find? fun l => small l == small s with
  | some l => .ok (.text l)
  | none => .error (notAmong s (Settings.logLevels.map small))

/-- A format of the log. -/
def formatOfText (s : String) : Except String Json :=
  if s ∈ Settings.logFormats then .ok (.text s) else .error (notAmong s Settings.logFormats)

/-- Why a text is no value of an option. -/
inductive ValueFault where
  /-- The text is refused for a reason. -/
  | refused (reason : String)
  /-- The system cannot be asked about a path with a null character. -/
  | nullCharacter
  deriving DecidableEq, Repr

/-- The text of a path that the system can be asked about. -/
def pathOfText (s : String) : Except ValueFault Json :=
  if s.contains (Char.ofNat 0) then .error .nullCharacter else .ok (.text (Path.ofText s).text)

/-- A path that may be read if something is there. -/
def readablePathOfText (t : FileTree) (s : String) : Except ValueFault Json :=
  (pathOfText s).bind fun path =>
    if ((t.follow true s).toOption.bind t.node?).all (·.mayRead) then .ok path
    else .error (.refused s!"Path {Text.quoted s} is not readable.")

/-- A file that exists, is no directory and may be read. -/
def fileOfText (t : FileTree) (s : String) : Except ValueFault Json :=
  (pathOfText s).bind fun path =>
    match (t.follow true s).toOption.bind t.node? with
    | none => .error (.refused s!"File {Text.quoted s} does not exist.")
    | some node =>
      if node.isDirectory then .error (.refused s!"File {Text.quoted s} is a directory.")
      else if node.mayRead then .ok path
      else .error (.refused s!"File {Text.quoted s} is not readable.")

/-- The value of a setting that an option gives. -/
def valueOfText (t : FileTree) (option : SettingOption) (s : String) : Except ValueFault Json :=
  match option with
  | .driverName | .nodeName => .ok (.text s)
  | .classPath => readablePathOfText t s
  | .rescanInterval => (intervalOfText s).mapError .refused
  | .kubeconfig => fileOfText t s
  | .dryRun => .ok (.bool true)
  | .metricsPort => (portOfText s).mapError .refused
  | .logLevel => (levelOfText s).mapError .refused
  | .logFormat => (formatOfText s).mapError .refused

/-- The name of the variable that gives the node if no option does. -/
def nodeVariable : String := "NODE_NAME"

/-- The last value that an option was given. -/
def Parsed.lastValue? (p : Parsed) (o : CommandOption) : Option String :=
  (p.given.reverse.find? (·.option == o)).map (·.value.getD "")

/-- The text of an option: the last one given, and for the node else the variable, if that is not
empty. -/
def textOf? (env : List (String × String)) (p : Parsed) (o : SettingOption) : Option String :=
  match p.lastValue? (.setting o) with
  | some s => some s
  | none =>
    if o = .nodeName then
      ((env.find? (·.1 == nodeVariable)).map (·.2)).filter (· != "")
    else none

/-- The settings of the options, in the order in which they were given, and the others after them
in the order of the help. -/
def settingOrder (p : Parsed) : List SettingOption :=
  let setting? (o : CommandOption) : Option SettingOption := match o with
    | .setting s => some s
    | _ => none
  ((p.given.map (·.option) ++ CommandOption.all).filterMap setting?).eraseDups

/-- Why arguments come to nothing. -/
inductive ArgumentFault where
  | usage (fault : UsageFault)
  | nullCharacter
  deriving DecidableEq, Repr

/-- The fault of an option whose text is no value. -/
def ValueFault.ofOption (o : SettingOption) : ValueFault → ArgumentFault
  | .refused reason => .usage (.invalidValue (CommandOption.longName (.setting o)) reason)
  | .nullCharacter => .nullCharacter

/-- The values of options one after another, up to the first that is refused. -/
def valuesOf (t : FileTree) (env : List (String × String)) (p : Parsed) :
    List SettingOption → Except ArgumentFault (List (SettingOption × Json))
  | [] => .ok []
  | o :: rest =>
    match textOf? env p o with
    | none => valuesOf t env p rest
    | some s =>
      match valueOfText t o s with
      | .error fault => .error (fault.ofOption o)
      | .ok v => (valuesOf t env p rest).map ((o, v) :: ·)

/-- What the arguments ask for. -/
inductive Request where
  | help
  | version
  | start (overrides : List (SettingOption × Json))
  deriving DecidableEq

/-- Reads the arguments: help comes before everything but ill-formed options, the values of
options before other arguments, and the version before a start. -/
def read (t : FileTree) (env : List (String × String)) (args : List String) :
    Except ArgumentFault Request := do
  let p ← (parse args).mapError .usage
  if p.given.any (·.option == .help) then return .help
  let overrides ← valuesOf t env p (settingOrder p)
  if !p.arguments.isEmpty then throw (.usage (.extraArguments p.arguments))
  if p.given.any (·.option == .version) then return .version
  return .start overrides

end SliceAgent.CommandLine
