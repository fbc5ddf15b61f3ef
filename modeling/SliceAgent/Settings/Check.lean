import SliceAgent.Settings
import SliceAgent.Decimal.Binary64
import SliceAgent.Files.Path
import SliceAgent.Text.Basic

/-!
# Checking settings

A value for a setting comes as text, or as a JSON value within a section that is given as a whole.
Each setting has a check that turns a value into one of the type of the setting, or names the
first rule that it breaks.

Text is read as a number or a truth value where one is asked for; other values are taken as
numbers and truth values only where nothing is lost.
-/

namespace SliceAgent

/-- The rules that a value can break. -/
inductive SettingRule where
  | modelType
  | stringType
  | stringUnicode
  | stringTooShort
  | pathType
  | floatType
  | floatParsing
  | greaterThan
  | intType
  | intParsing
  | intParsingSize
  | intFromFloat
  | finiteNumber
  | greaterThanEqual
  | lessThanEqual
  | boolType
  | boolParsing
  | literal
  deriving DecidableEq, Repr

/-- The name of a rule. -/
def SettingRule.name : SettingRule → String
  | .modelType => "model_type"
  | .stringType => "string_type"
  | .stringUnicode => "string_unicode"
  | .stringTooShort => "string_too_short"
  | .pathType => "path_type"
  | .floatType => "float_type"
  | .floatParsing => "float_parsing"
  | .greaterThan => "greater_than"
  | .intType => "int_type"
  | .intParsing => "int_parsing"
  | .intParsingSize => "int_parsing_size"
  | .intFromFloat => "int_from_float"
  | .finiteNumber => "finite_number"
  | .greaterThanEqual => "greater_than_equal"
  | .lessThanEqual => "less_than_equal"
  | .boolType => "bool_type"
  | .boolParsing => "bool_parsing"
  | .literal => "literal_error"

/-- A check of a value. -/
abbrev SettingCheck := Json → Except SettingRule Json

namespace SettingCheck

/-! ### Texts -/

/-- A text. -/
def text : SettingCheck
  | .text s => .ok (.text s)
  | .torn _ => .error .stringUnicode
  | _ => .error .stringType

/-- A text of at least one character. -/
def nonemptyText : SettingCheck
  | .text s => if s = "" then .error .stringTooShort else .ok (.text s)
  | v => text v

/-- One of some texts. -/
def oneOf (choices : List String) : SettingCheck
  | .text s => if s ∈ choices then .ok (.text s) else .error .literal
  | .torn _ => .error .stringUnicode
  | _ => .error .literal

/-- The text of a path. -/
def path : SettingCheck
  | .text s => .ok (.text (Path.ofText s).text)
  | _ => .error .pathType

/-- A value that may be `null`. -/
def optional (check : SettingCheck) : SettingCheck
  | .null => .ok .null
  | v => check v

/-! ### Numbers -/

/-- Drops underscores from a numeral that has single ones only, none of them at an end. -/
def dropUnderscores (cs : List Char) : List Char :=
  let doubled := (cs.zip (cs.drop 1)).any fun p => p.1 == '_' && p.2 == '_'
  if cs.head? = some '_' ∨ cs.getLast? = some '_' ∨ doubled then cs else cs.filter (· != '_')

/-- Drops a point with nothing but zeros behind it, at least one. -/
def dropZeroFraction (cs : List Char) : List Char :=
  match cs.dropWhile (· != '.') with
  | _ :: zeros =>
    if !zeros.isEmpty && zeros.all (· == '0') then cs.takeWhile (· != '.') else cs
  | [] => cs

/-- The characters from the first one that is neither zero nor an underscore. In front of a point
the last of those stays, and of nothing else too. -/
def dropZerosAfter (last : Char) : List Char → Option (List Char)
  | [] => some [last]
  | c :: r =>
    if c = '0' ∨ c = '_' then dropZerosAfter c r
    else if ('1' ≤ c ∧ c ≤ '9') ∨ c = '-' then some (c :: r)
    else if c = '.' then some (last :: c :: r)
    else none

/-- Drops the zeros in front of a numeral that starts with a digit or a minus sign. -/
def dropLeadingZeros : List Char → Option (List Char)
  | [] => none
  | c :: r =>
    if c = '0' then dropZerosAfter c r
    else if ('1' ≤ c ∧ c ≤ '9') ∨ c = '-' then some (c :: r)
    else none

/-- A numeral without zeros in front, an empty fraction and underscores. -/
def plainDigits? (cs : List Char) : Option (List Char) :=
  (dropLeadingZeros cs).map (dropUnderscores ∘ dropZeroFraction)

/-- The plain form of a whole number, which has no blank ends and no plus sign. -/
def plainNumeral? (cs : List Char) : Option (List Char) :=
  match Text.dropEnds Text.isSpace cs with
  | '+' :: '-' :: _ => none
  | '+' :: r => plainDigits? r
  | '-' :: r => (plainDigits? r).map ('-' :: ·)
  | r => plainDigits? r

/-- A whole number in its plain form: an optional minus sign and digits, with no needless zero in
front. More than `digitLimit` characters of that kind are too many, whatever follows them. -/
def intOfNumeral (cs : List Char) : Except SettingRule Int :=
  let negative := cs.head? = some '-'
  let body := if negative then cs.drop 1 else cs
  let digits := body.takeWhile Char.isDigit
  let isPadded := digits.head? = some '0' ∧ digits.length ≠ 1
  if digits.isEmpty ∨ isPadded then .error .intParsing
  else if digitLimit < cs.length - (body.length - digits.length) then .error .intParsingSize
  else if digits.length = body.length then
    .ok (signed negative (natOfDigits 10 (digits.filterMap Text.asciiDigit?)))
  else .error .intParsing

/-- A whole number, as it is or brought to its plain form. -/
def intOfText (s : String) : Except SettingRule Int :=
  match intOfNumeral s.toList with
  | .error .intParsing => ((plainNumeral? s.toList).map intOfNumeral).getD (.error .intParsing)
  | result => result

/-- A floating-point number that is a whole one of 64 bits; the least one of these is left out. -/
def intOfFloat (x : Binary64) : Except SettingRule Int :=
  match x.decode with
  | .finite _ _ _ =>
    match x.toInt? with
    | none => .error .intFromFloat
    | some n =>
      if -0x8000000000000000 < n ∧ n < 0x8000000000000000 then .ok n else .error .intParsingSize
  | _ => .error .finiteNumber

/-- The whole number that a value stands for. -/
def toInt : Json → Except SettingRule Int
  | .int n => .ok n
  | .bool b => .ok (if b then 1 else 0)
  | .float x => intOfFloat x
  | .text s => intOfText s
  | .torn _ => .error .stringUnicode
  | _ => .error .intType

/-- A whole number between two bounds. -/
def intBetween (low high : Int) : SettingCheck := fun v =>
  (toInt v).bind fun n =>
    if n < low then .error .greaterThanEqual
    else if high < n then .error .lessThanEqual
    else .ok (.int n)

/-- The words for numbers without digits. -/
def floatOfWord? (cs : List Char) : Option Binary64 :=
  let (negative, body) := takeSign cs
  match String.ofList (body.map Char.toLower) with
  | "inf" | "infinity" => some (if negative then .negativeInfinity else .positiveInfinity)
  | "nan" => some .nan
  | _ => none

/-- The floating-point number that a numeral or a word stands for. -/
def floatOfChars? (cs : List Char) : Option Binary64 :=
  match Decimal.ofChars? Text.asciiDigit? cs with
  | some d => some (.ofDecimal d)
  | none => floatOfWord? cs

/-- A floating-point number: blank ends do not count, nor underscores where there are no blank
ends. -/
def floatOfText (s : String) : Except SettingRule Binary64 :=
  match floatOfChars? (Text.dropEnds Text.isSpace s.toList) with
  | some x => .ok x
  -- Underscores are looked for in the text as it was given.
  | none => (floatOfChars? (dropUnderscores s.toList)).elim (.error .floatParsing) .ok

/-- The floating-point number that a value stands for. -/
def toFloat : Json → Except SettingRule Binary64
  | .int n =>
    let x := Binary64.ofInt n
    if n.natAbs < Nat.pow 2 1024 ∧ x ≠ .positiveInfinity ∧ x ≠ .negativeInfinity then .ok x
    else .error .floatType
  | .bool b => .ok (.ofInt (if b then 1 else 0))
  | .float x => .ok x
  | .text s => floatOfText s
  | .torn _ => .error .stringUnicode
  | _ => .error .floatType

/-- A floating-point number greater than zero. -/
def positive : SettingCheck := fun v =>
  (toFloat v).bind fun x => if x.isPositive then .ok (.float x) else .error .greaterThan

/-! ### Truth values -/

/-- The words for truth values. -/
def boolOfWord? : String → Option Bool
  | "1" | "true" | "t" | "yes" | "y" | "on" => some true
  | "0" | "false" | "f" | "no" | "n" | "off" => some false
  | _ => none

/-- The truth values among the whole numbers; one of more than 64 bits is of the wrong type. -/
def boolOfInt (n : Int) : Except SettingRule Json :=
  if n = 0 then .ok (.bool false)
  else if n = 1 then .ok (.bool true)
  else if -0x8000000000000000 ≤ n ∧ n < 0x8000000000000000 then .error .boolParsing
  else .error .boolType

/-- The truth value that a word stands for. -/
def boolOfText (s : String) : Except SettingRule Json :=
  (boolOfWord? (.ofList (s.toList.map Char.toLower))).elim (.error .boolParsing) (.ok ∘ .bool)

/-- A truth value. -/
def bool : SettingCheck
  | .bool b => .ok (.bool b)
  | .int n => boolOfInt n
  | .float x => match intOfFloat x with
    | .ok n => boolOfInt n
    | .error _ => .error .boolType
  | .text s => boolOfText s
  | .torn _ => .error .stringUnicode
  | _ => .error .boolType

end SettingCheck

/-- A setting whose value breaks a rule, by its section and name; a section that is no object has
no name. -/
structure SettingFault where
  place : List String
  rule : SettingRule
  deriving DecidableEq, Repr

/-- Checks a setting of a section; a missing one has its default. -/
def checkSetting (section_ : String) (fields : List (String × Json)) (name : String)
    (check : SettingCheck) (default : Json) : Json × List SettingFault :=
  match Json.field? name fields with
  | none => (default, [])
  | some v => match check v with
    | .ok w => (w, [])
    | .error rule => (default, [⟨[section_, name], rule⟩])

namespace Settings

/-- The levels and formats that a log may be set to. -/
def logLevels : List String := ["DEBUG", "INFO", "WARNING", "ERROR"]
def logFormats : List String := ["json", "console"]

/-- The least and the greatest port. -/
def portMin : Int := 1
def portMax : Int := 65535

open SettingCheck in
def checkDriver (fields : List (String × Json)) : DriverSettings × List SettingFault :=
  let d : DriverSettings := {}
  let (name, e₁) := checkSetting "driver" fields "name" nonemptyText d.name
  let (nodeName, e₂) := checkSetting "driver" fields "node_name" text d.nodeName
  ({ name, nodeName }, e₁ ++ e₂)

open SettingCheck in
def checkDiscovery (fields : List (String × Json)) : DiscoverySettings × List SettingFault :=
  let d : DiscoverySettings := {}
  let (classPath, e₁) := checkSetting "discovery" fields "sysfs_path" path d.classPath
  let (rescanInterval, e₂) :=
    checkSetting "discovery" fields "rescan_interval_seconds" positive d.rescanInterval
  ({ classPath, rescanInterval }, e₁ ++ e₂)

open SettingCheck in
def checkCluster (fields : List (String × Json)) : ClusterSettings × List SettingFault :=
  let d : ClusterSettings := {}
  let (kubeconfig, e₁) := checkSetting "kubernetes" fields "kubeconfig" (optional path) d.kubeconfig
  let (requestTimeout, e₂) :=
    checkSetting "kubernetes" fields "request_timeout_seconds" (optional positive) d.requestTimeout
  let (dryRun, e₃) := checkSetting "kubernetes" fields "dry_run" bool d.dryRun
  ({ kubeconfig, requestTimeout, dryRun }, e₁ ++ e₂ ++ e₃)

open SettingCheck in
def checkServer (fields : List (String × Json)) : ServerSettings × List SettingFault :=
  let d : ServerSettings := {}
  let (enableMetrics, e₁) := checkSetting "server" fields "enable_metrics" bool d.enableMetrics
  let (metricsPort, e₂) :=
    checkSetting "server" fields "metrics_port" (intBetween portMin portMax) d.metricsPort
  ({ enableMetrics, metricsPort }, e₁ ++ e₂)

open SettingCheck in
def checkObservability (fields : List (String × Json)) :
    ObservabilitySettings × List SettingFault :=
  let d : ObservabilitySettings := {}
  let check := checkSetting "observability" fields
  let (logLevel, e₁) := check "log_level" (oneOf logLevels) d.logLevel
  let (logFormat, e₂) := check "log_format" (oneOf logFormats) d.logFormat
  let (traceEndpoint, e₃) := check "otel_endpoint" (optional text) d.traceEndpoint
  let (environment, e₄) := check "environment" text d.environment
  ({ logLevel, logFormat, traceEndpoint, environment }, e₁ ++ e₂ ++ e₃ ++ e₄)

/-- Checks a section as a whole; a section that is not given has its defaults. -/
def checkSection {α : Type} (name : String) (default : α)
    (check : List (String × Json) → α × List SettingFault) : Option Json → α × List SettingFault
  | none => (default, [])
  | some (.obj fields) => check fields
  | some _ => (default, [⟨[name], .modelType⟩])

/-- The settings that sections give, or all faults in the order of sections and settings. -/
def ofSections (given : String → Option Json) : Except (List SettingFault) Settings :=
  let (driver, e₁) := checkSection "driver" {} checkDriver (given "driver")
  let (discovery, e₂) := checkSection "discovery" {} checkDiscovery (given "discovery")
  let (cluster, e₃) := checkSection "kubernetes" {} checkCluster (given "kubernetes")
  let (server, e₄) := checkSection "server" {} checkServer (given "server")
  let (observability, e₅) :=
    checkSection "observability" {} checkObservability (given "observability")
  let faults := e₁ ++ e₂ ++ e₃ ++ e₄ ++ e₅
  if faults.isEmpty then .ok { driver, discovery, cluster, server, observability }
  else .error faults

end Settings

end SliceAgent
