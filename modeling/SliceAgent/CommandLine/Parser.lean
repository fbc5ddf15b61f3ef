import SliceAgent.Settings
import SliceAgent.Text.Quoted

/-!
# Parsing the arguments

Nine options set a setting each; two more show the version and the help. `CommandLine.helpLines`
is the help.

Arguments that begin with a dash are options. A long option has its value behind an equals sign or
in the next argument, whatever that looks like. Letters behind a single dash are options of their
own. Options and other arguments may come in any order, and two dashes alone end the options.

For a misspelt option others are suggested. Two texts are compared by their longest common part, and
then by the longest common parts before and behind it. The share of characters that lie in common
parts is their likeness. The options most like a misspelt one are suggested, at most three, if they
have a likeness of three fifths.
-/

namespace SliceAgent.CommandLine

/-! ### Options -/

/-- An option of the command line. -/
inductive CommandOption where
  | setting (option : SettingOption)
  | version
  | help
  deriving DecidableEq, Repr

namespace CommandOption

/-- All options, in the order of the help. -/
def all : List CommandOption :=
  [.setting .driverName, .setting .nodeName, .setting .classPath, .setting .rescanInterval,
   .setting .kubeconfig, .setting .dryRun, .setting .metricsPort, .setting .logLevel,
   .setting .logFormat, .version, .help]

/-- The long name of an option. -/
def longName : CommandOption → String
  | .setting .driverName => "--driver-name"
  | .setting .nodeName => "--node-name"
  | .setting .classPath => "--sysfs-path"
  | .setting .rescanInterval => "--rescan-interval"
  | .setting .kubeconfig => "--kubeconfig"
  | .setting .dryRun => "--dry-run"
  | .setting .metricsPort => "--metrics-port"
  | .setting .logLevel => "--log-level"
  | .setting .logFormat => "--log-format"
  | .version => "--version"
  | .help => "--help"

/-- Whether an option has a value. -/
def takesValue : CommandOption → Bool
  | .setting .dryRun | .version | .help => false
  | _ => true

/-- The option of a long name. -/
def ofLong? (name : String) : Option CommandOption :=
  all.find? (·.longName == name)

/-- The option of a letter. -/
def ofLetter? (c : Char) : Option CommandOption :=
  if c = 'h' then some .help else none

end CommandOption

/-- The usage line. -/
def usageLine : String := "Usage: main [OPTIONS]"

/-- The help. -/
def helpLines : List String :=
  [usageLine,
   "",
   "  Discover mock-accel devices and publish them as ResourceSlices.",
   "",
   "Options:",
   "  --driver-name TEXT              DRA driver name (default: mock-",
   "                                  accel.example.com).",
   "  --node-name TEXT                Node to publish devices for (env: NODE_NAME).",
   "  --sysfs-path PATH               Device class directory.",
   "  --rescan-interval FLOAT RANGE   Seconds between device rescans.  [x>0]",
   "  --kubeconfig FILE               Kubeconfig file; in-cluster config if unset.",
   "  --dry-run                       Keep ResourceSlices in memory instead of the",
   "                                  API server.",
   "  --metrics-port INTEGER RANGE    Prometheus metrics port.  [1<=x<=65535]",
   "  --log-level [debug|info|warning|error]",
   "  --log-format [json|console]",
   "  --version                       Show version and exit.",
   "  -h, --help                      Show this message and exit."]

end SliceAgent.CommandLine

namespace SliceAgent.Suggestion

/-! ### Suggestions -/

/-- A common part of two texts: where it begins in each, and its length. -/
structure Part where
  left : Nat
  right : Nat
  length : Nat
  deriving DecidableEq, Repr

/-- The number of characters that two texts have in common at their beginnings. -/
def commonStart : List Char → List Char → Nat
  | a :: as, b :: bs => if a = b then commonStart as bs + 1 else 0
  | _, _ => 0

/-- The longest common part, the first one in the left text and then in the right one. -/
def longestPart (a b : List Char) : Part :=
  let candidates := (List.range a.length).flatMap fun i =>
    (List.range b.length).map fun j => (⟨i, j, commonStart (a.drop i) (b.drop j)⟩ : Part)
  -- Only a longer part takes the place of the best one, so of equal ones the first stays.
  candidates.foldl (fun best p => if best.length < p.length then p else best) ⟨0, 0, 0⟩

/-- The number of characters in common parts; `fuel` bounds the depth of the search, and the
length of the left text is enough. -/
def matching : Nat → List Char → List Char → Nat
  | 0, _, _ => 0
  | fuel + 1, a, b =>
    let p := longestPart a b
    if p.length = 0 then 0
    else matching fuel (a.take p.left) (b.take p.right) + p.length +
      matching fuel (a.drop (p.left + p.length)) (b.drop (p.right + p.length))

/-- The characters in common parts of two texts. -/
def likeness (a b : String) : Nat :=
  matching (a.length + 1) a.toList b.toList

/-- Whether two texts are alike enough for a suggestion. -/
def isAlike (candidate word : String) : Bool :=
  -- `2 * likeness / (sum of lengths) ≥ 3 / 5`, without the division.
  decide (3 * (candidate.length + word.length) ≤ 10 * likeness candidate word)

/-- Whether the first candidate is the better one: more alike, or else later in order. -/
def better (word a b : String) : Bool :=
  -- Both shares are brought to one denominator.
  let x := likeness a word * (b.length + word.length)
  let y := likeness b word * (a.length + word.length)
  decide (y < x) || (x == y && decide (b ≤ a))

/-- The suggestions for a word, in the order of their texts. -/
def suggest (candidates : List String) (word : String) : List String :=
  let alike := candidates.filter (isAlike · word)
  ((alike.mergeSort (better word)).take 3).mergeSort fun a b => decide (a ≤ b)

end SliceAgent.Suggestion

namespace SliceAgent.CommandLine

/-! ### Arguments -/

/-- Why arguments are refused. -/
inductive UsageFault where
  | noSuchOption (name : String) (suggestions : List String)
  | needsArgument (name : String)
  | takesNoValue (name : String)
  | extraArguments (arguments : List String)
  | invalidValue (name reason : String)
  | noNode
  deriving DecidableEq, Repr

namespace UsageFault

/-- The wording of the suggestions. -/
def suggestionText : List String → String
  | [] => ""
  | [s] => s!" Did you mean {Text.quoted s}?"
  | ss => " (Did you mean one of: " ++ ", ".intercalate (ss.map Text.quoted) ++ "?)"

/-- The wording of a fault. -/
def message : UsageFault → String
  | .noSuchOption name suggestions =>
    s!"No such option {Text.quoted name}." ++ suggestionText suggestions
  | .needsArgument name => s!"Option {Text.quoted name} requires an argument."
  | .takesNoValue name => s!"Option {Text.quoted name} does not take a value."
  | .extraArguments arguments =>
    (if arguments.length = 1 then "Got unexpected extra argument"
     else "Got unexpected extra arguments") ++ " (" ++ " ".intercalate arguments ++ ")"
  | .invalidValue name reason => s!"Invalid value for {Text.quoted name}: {reason}"
  | .noNode => "NODE_NAME environment variable or --node-name must be set"

/-- Faults of the form of an option are told without the usage. -/
def isSyntax : UsageFault → Bool
  | .needsArgument _ | .takesNoValue _ => true
  | _ => false

end UsageFault

/-- An option as it was given. -/
structure Given where
  option : CommandOption
  value : Option String
  deriving DecidableEq, Repr

/-- Arguments that were told apart: the options in their order, and the other arguments. -/
structure Parsed where
  given : List Given := []
  arguments : List String := []
  deriving DecidableEq, Repr

/-- Splits an argument at its first equals sign. -/
def splitEquals (arg : List Char) : List Char × Option (List Char) :=
  match arg.dropWhile (· != '=') with
  | _ :: value => (arg.takeWhile (· != '='), some value)
  | [] => (arg, none)

/-- The options that letters behind a single dash stand for. -/
def letters : List Char → Except UsageFault (List Given)
  | [] => .ok []
  | c :: rest =>
    match CommandOption.ofLetter? c with
    | none => .error (.noSuchOption ("-" ++ String.singleton c) [])
    | some o => (letters rest).map (⟨o, none⟩ :: ·)

/-- The long names of all options. -/
def longNames : List String :=
  CommandOption.all.map CommandOption.longName

/-- Puts options before those of the other arguments. -/
def Parsed.before (given : List Given) (p : Parsed) : Parsed :=
  { p with given := given ++ p.given }

/-- Tells arguments apart. -/
def parse : List String → Except UsageFault Parsed
  | [] => .ok {}
  | arg :: rest =>
    let cs := arg.toList
    if arg = "--" then .ok { arguments := rest }
    else if cs.head? = some '-' ∧ 1 < cs.length then
      let (name, value?) := splitEquals cs
      let long := String.ofList name
      match CommandOption.ofLong? long, value? with
      | none, _ =>
        if cs.take 2 = ['-', '-'] then
          .error (.noSuchOption long (Suggestion.suggest longNames long))
        else match letters cs.tail with
          | .error e => .error e
          | .ok given => (parse rest).map (.before given)
      | some o, some value =>
        if o.takesValue then (parse rest).map (.before [⟨o, some (.ofList value)⟩])
        else .error (.takesNoValue long)
      | some o, none =>
        if o.takesValue then
          match rest with
          | [] => .error (.needsArgument long)
          | value :: rest => (parse rest).map (.before [⟨o, some value⟩])
        else (parse rest).map (.before [⟨o, none⟩])
    else (parse rest).map fun p => { p with arguments := arg :: p.arguments }

end SliceAgent.CommandLine
