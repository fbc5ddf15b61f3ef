import SliceAgent.Json.Basic
import SliceAgent.Json.Writer

/-!
# The log

A `Record` is what is logged, before it is written in any style. The parts of the agent that read
devices and store slices log plain messages under the name of a logger; the cycle and the agent
log events with named fields. An event is a value, mostly a text, and may be left out.

Messages are written as one line with the time, the level and the logger. Events are written in
one of two styles: as a JSON object, or for the console, with the fields after the event in the
order of their names, and a stack and an exception on lines of their own. `LogStyle` is the style
of events together with the level from which on records are written.

An event is logged by a call with fields of its own, through a logger that may be bound to a
context of further fields. The fields of the call win over those of the context. A few names cannot
be given: those that the logger and the call use themselves. The fields that ask for a trace are
taken out, since none is at hand. On the console a stack and an exception have to be texts.
`LogCall.record?` is the record of a call, or the reason why there is none.
-/

namespace SliceAgent

/-! ### Records -/

/-- How much a record matters. -/
inductive Level where
  | debug
  | info
  | warning
  | error
  | critical
  deriving DecidableEq, Repr

namespace Level

/-- The name of a level in an event. -/
def name : Level → String
  | .debug => "debug"
  | .info => "info"
  | .warning => "warning"
  | .error => "error"
  | .critical => "critical"

/-- The level of a name; an exception is an error, and the short and long names of a level are as
good as the one that is written. -/
def ofName? : String → Option Level
  | "debug" => some .debug
  | "info" | "msg" => some .info
  | "warning" | "warn" => some .warning
  | "error" | "exception" => some .error
  | "critical" | "fatal" => some .critical
  | _ => none

/-- The place of a level in the order of levels. -/
def rank : Level → Nat
  | .debug => 10
  | .info => 20
  | .warning => 30
  | .error => 40
  | .critical => 50

end Level

/-- One thing that is logged. -/
inductive Record where
  /-- A plain message of a named logger. -/
  | message (level : Level) (logger text : String)
  /-- An event with its fields; `trace` marks an error that was not expected. -/
  | event (level : Level) (event : Option Json) (fields : List (String × Json))
    (trace : Bool := false)
  deriving DecidableEq

/-- The level of a record. -/
def Record.level : Record → Level
  | .message level _ _ => level
  | .event level _ _ _ => level

instance : Coe String (Option Json) := ⟨fun s => some (.text s)⟩

/-- The loggers of the parts of the agent. -/
def scanLogger : String := "accel_dra.domain.services.device_scanner"
def buildLogger : String := "accel_dra.domain.services.slice_builder"
def memoryLogger : String := "accel_dra.adapters.outbound.memory_store"
def clusterLogger : String := "accel_dra.adapters.outbound.kubernetes_store"

/-- The logger that has no name of its own. -/
def rootLogger : String := "root"

/-! ### Lines -/

/-- How events are written, and from which level on. -/
structure LogStyle where
  threshold : Nat
  json : Bool
  deriving DecidableEq, Repr

/-- Why a level is refused. -/
inductive LevelFault where
  | unknown
  /-- The name is that of a text. -/
  | notALevel (text : String)
  /-- The name is that of a table. -/
  | wrongKind
  deriving DecidableEq, Repr

/-- The wording of a refused level, unless it is unknown or of a wrong kind. -/
def LevelFault.message : LevelFault → String
  | .unknown | .wrongKind => ""
  | .notALevel text => s!"Unknown level: {Text.quoted text}"

namespace LogStyle

/-- The large form of a letter whose large form is ASCII: a small ASCII letter, a dotless `i`, a
long `s`, and the two ligatures of `s` and `t`. -/
def upperChars (c : Char) : List Char :=
  if c.toNat = 0x131 then ['I']
  else if c.toNat = 0x17f then ['S']
  else if c.toNat = 0xfb05 ∨ c.toNat = 0xfb06 then ['S', 'T']
  else [c.toUpper]

/-- The rank of the level of a name, in small or large letters. -/
def rankOfName (name : String) : Except LevelFault Nat :=
  match String.ofList (name.toList.flatMap upperChars) with
  | "DEBUG" => .ok 10
  | "INFO" => .ok 20
  | "WARNING" | "WARN" => .ok 30
  | "ERROR" => .ok 40
  | "CRITICAL" | "FATAL" => .ok 50
  | "NOTSET" => .ok 0
  | "BASIC_FORMAT" => .error (.notALevel "%(levelname)s:%(name)s:%(message)s")
  | "_STYLES" => .error .wrongKind
  | _ => .error .unknown

/-- The style of a level and a format; every format but `json` is for the console. -/
def ofNames (level format : String) : Except LevelFault LogStyle :=
  (rankOfName level).map fun threshold => ⟨threshold, format == "json"⟩

end LogStyle

/-- The name of a level in a message. -/
def Level.capitals : Level → String
  | .debug => "DEBUG"
  | .info => "INFO"
  | .warning => "WARNING"
  | .error => "ERROR"
  | .critical => "CRITICAL"

/-- A text with blanks at its end up to a width. -/
def padRight (width : Nat) (s : String) : String :=
  s ++ .ofList (List.replicate (width - s.length) ' ')

/-- A text without spaces at its end. -/
def dropTrailingSpaces (s : String) : String :=
  .ofList (s.toList.reverse.dropWhile (· == ' ')).reverse

/-- A value on the console: texts are bare unless they could be misread. -/
def consoleValue : Json → String
  | .text s =>
    if s.toList.any fun c => c == ' ' || c == '\t' || c == '=' || c == '\r' || c == '\n' ||
        c == '"' || c == '\'' then Text.quoted s
    else s
  | v => v.quoted

/-- The names of fields that are shown in brackets after the event. -/
def bracketedFields : List String :=
  ["logger", "logger_name"]

/-- The names of fields that are not written among the others. -/
def hiddenFields : List String :=
  ["event", "level", "timestamp", "stack", "exception"] ++ bracketedFields

/-- The line between a stack and an exception. -/
def stackRule : String :=
  .ofList (List.replicate 79 '=')

/-- The first line of an event on the console. -/
def consoleHead (time : String) (level : Level) (event : Option Json)
    (fields : List (String × Json)) : String :=
  let shown := (event.map fun e => padRight 30 e.shown).toList
  let bracketed := bracketedFields.filterMap fun name =>
    (Json.field? name fields).map fun v => "[" ++ v.shown ++ "]"
  let pairs := (Json.sortFields (fields.filter fun f => !hiddenFields.contains f.1)).map
    fun (k, v) => k ++ "=" ++ consoleValue v
  dropTrailingSpaces (" ".intercalate
    ([time, "[" ++ padRight 9 level.name ++ "]"] ++ shown ++ bracketed ++ pairs))

/-- The lines of the stack and the exception of an event. -/
def consoleTail (fields : List (String × Json)) : String :=
  let given (name : String) : Json := (Json.field? name fields).getD .null
  match given "stack", given "exception" with
  | .null, .null => ""
  | .null, e => "\n" ++ e.shown
  | s, .null => "\n" ++ s.shown
  | s, e => "\n" ++ s.shown ++ "\n\n" ++ stackRule ++ "\n" ++ "\n" ++ e.shown

/-- An event for the console. -/
def consoleLine (time : String) (level : Level) (event : Option Json)
    (fields : List (String × Json)) : String :=
  consoleHead time level event fields ++ consoleTail fields

/-- An event as a JSON object; the level and the time win over fields of their names. -/
def jsonLine (time : String) (level : Level) (event : Option Json)
    (fields : List (String × Json)) : String :=
  let named := (event.map ("event", ·)).toList
  Json.render <| .obj <| Json.setFields
    (named ++ [("level", .text level.name), ("timestamp", .text time)]) fields

/-- A message of a logger. -/
def messageLine (time : String) (level : Level) (logger text : String) : String :=
  s!"{time} {level.capitals} {logger}: {text}"

/-- The text of a record, without the end of its last line; `none` if its level is too low. The
threshold of messages is the one given, that of events belongs to their style. -/
def Record.line? (time : String) (threshold : Nat) (style : LogStyle) : Record → Option String
  | .message level logger text =>
    if level.rank < threshold then none else some (messageLine time level logger text)
  | .event level value fields _ =>
    if level.rank < style.threshold then none
    else if style.json then some (jsonLine time level value fields)
    else some (consoleLine time level value fields)

/-! ### Calls -/

/-- A call that logs an event. -/
structure LogCall where
  level : Level
  event : Json
  /-- What the logger is bound to. -/
  context : List (String × Json) := []
  fields : List (String × Json) := []
  deriving DecidableEq

/-- Why a call cannot be made. -/
inductive LogCallFault where
  /-- A name is in use. -/
  | takenName (name : String)
  /-- A value that has to be a text is none. -/
  | noText (name : String)
  deriving DecidableEq, Repr

namespace LogCall

/-- The names that a context cannot have. -/
def contextNames : List String := ["name", "self"]

/-- The names that a call cannot have. -/
def callNames : List String := ["event", "self"]

/-- The name that a call cannot have if it is written. -/
def writtenName : String := "method_name"

/-- The fields that ask for a trace. -/
def traceFields : List String := ["exc_info", "stack_info"]

/-- The first of some names that fields have. -/
def taken? (names : List String) (fields : List (String × Json)) : Option LogCallFault :=
  (names.find? fun name => (Json.field? name fields).isSome).map .takenName

/-- A stack or an exception that is no text. -/
def noText? (fields : List (String × Json)) : Option LogCallFault :=
  (["stack", "exception"].find? fun name => match Json.field? name fields with
    | none | some .null | some (.text _) => false
    | some _ => true).map .noText

/-- The fields of a call over those of its context. -/
def merged (call : LogCall) : List (String × Json) :=
  (Json.setFields call.fields call.context).filter fun f => !traceFields.contains f.1

/-- The record of a call. An event of the context counts only if the call has none, but then it may
be `null`. -/
def record (call : LogCall) : Record :=
  let event := if call.event = .null then Json.field? "event" call.context else some call.event
  .event call.level event (call.merged.filter (·.1 != "event"))

/-- The record of a call, unless it cannot be made; a call that is not written for its level is not
looked at closely. -/
def record? (style : LogStyle) (call : LogCall) : Except LogCallFault Record :=
  let isWritten := decide (style.threshold ≤ call.level.rank)
  let names := if isWritten then callNames ++ [writtenName] else callNames
  let fault := (taken? contextNames call.context).or <| (taken? names call.fields).or <|
    if isWritten && !style.json then noText? call.merged else none
  fault.elim (.ok call.record) .error

end LogCall

/-! ### Messages -/

/-- The name of the level under which an exception is logged. -/
def exceptionName : String := "exception"

/-- What is written of an exception where there is none, on a line of its own. -/
def noException : String := "NoneType: None"

/-- A message with what is written of an exception. -/
def withException (text : String) : String :=
  text ++ (if text.endsWith "\n" then "" else "\n") ++ noException

/-- The name of a level under which events are logged, but no messages. -/
def eventOnlyName : String := "msg"

/-- The record of a message that is logged under the name of a level; a logger without a name is
the one that has none of its own. -/
def messageRecord? (levelName logger text : String) : Option Record :=
  (Level.ofName? levelName).filter (fun _ => levelName != eventOnlyName) |>.map fun level =>
    .message level (if logger = "" then rootLogger else logger)
      (if levelName = exceptionName then withException text else text)

end SliceAgent
