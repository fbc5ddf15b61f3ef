import SliceAgent.Text.Quoted
import SliceAgent.Decimal.Basic

/-!
# Faults of YAML texts

A fault of a text names what was found wrong and where, and often also what was being read and
where that began. `Layer` is the level of the format that the fault belongs to: tokens, the events
that they spell, the nodes that the events describe, or the values of the nodes.

Scalars have faults of their own, which have no place.
-/

namespace SliceAgent.Yaml

/-- A place in a text: the characters before it, and its line and column, counted from zero. -/
structure Mark where
  index : Nat := 0
  line : Nat := 0
  column : Nat := 0
  deriving DecidableEq, Repr

/-- A place as it is shown, in a text of a name. -/
def Mark.text (name : String) (m : Mark) : String :=
  s!"  in \"{name}\", line {m.line + 1}, column {m.column + 1}"

/-- The levels of the format. -/
inductive Layer where
  | token
  | event
  | node
  | value
  deriving DecidableEq, Repr

/-- Why a scalar has no value of its type. -/
inductive ScalarFault where
  /-- A text is no whole number in a base. -/
  | noInt (base : Nat) (text : Text.CodeText)
  /-- A whole number has too many digits. -/
  | tooManyDigits (count : Nat)
  /-- A text is no floating-point number. -/
  | noFloat (text : Text.CodeText)
  /-- A number has no characters. -/
  | emptyNumber
  /-- A part of a number weighs too much. -/
  | hugeWeight
  /-- A text is no truth value. -/
  | noBool (text : Text.CodeText)
  /-- A text is no time. -/
  | noTime
  /-- A time is asked of a mapping. -/
  | timeOfMapping
  /-- A part of a time is out of its range. -/
  | timeRange (problem : String)
  /-- A code stands for no character; a huge one cannot even be a code. -/
  | noCharacter (isHuge : Bool)
  deriving DecidableEq, Repr

/-- The wording of a fault of a scalar. -/
def ScalarFault.message : ScalarFault → String
  | .noInt base text =>
    s!"invalid literal for int() with base {base}: " ++ ((Text.quotedPoints text).take 200).toString
  | .tooManyDigits count => tooManyDigitsMessage count
  | .noFloat text => s!"could not convert string to float: {Text.quotedPoints text}"
  | .emptyNumber => "string index out of range"
  | .hugeWeight => "int too large to convert to float"
  | .noBool text => Text.quotedPoints text
  | .noTime | .timeOfMapping => ""
  | .timeRange problem => problem
  | .noCharacter isHuge =>
    if isHuge then "Python int too large to convert to C int"
    else "chr() arg not in range(0x110000)"

/-- Why a text has no value. -/
inductive Fault where
  /-- A character is not allowed, wherever it stands. -/
  | unprintable (code position : Nat)
  /-- Something was found at a place, while something else was being read. -/
  | found (layer : Layer) (context : Option (String × Option Mark)) (problem : String) (mark : Mark)
  | scalar (fault : ScalarFault)
  /-- Too many collections lie within each other. -/
  | tooDeep
  deriving DecidableEq, Repr

namespace Fault

/-- A fault without a context. -/
def plain (layer : Layer) (problem : String) (mark : Mark) : Fault :=
  .found layer none problem mark

/-- A fault within something that began at a place. -/
def within (layer : Layer) (context : String) (start : Mark) (problem : String) (mark : Mark) :
    Fault :=
  .found layer (some (context, some start)) problem mark

/-- The wording of a fault in a text of a name. A place is told once if it is both that of the
context and that of the problem. -/
def message (name : String) : Fault → String
  | .unprintable code position =>
    "unacceptable character #x" ++ Text.hexDigits 4 code ++
      s!": special characters are not allowed\n  in \"{name}\", position {position}"
  | .found _ context problem mark =>
    let before := match context with
      | none => []
      | some (text, none) => [text]
      | some (text, some start) =>
        if start.line = mark.line ∧ start.column = mark.column then [text]
        else [text, start.text name]
    "\n".intercalate (before ++ [problem, mark.text name])
  | .scalar fault => fault.message
  | .tooDeep => "maximum recursion depth exceeded while calling a Python object"

end Fault

end SliceAgent.Yaml
