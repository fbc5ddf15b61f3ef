import SliceAgent.Json.Basic
import SliceAgent.Decimal.Binary64
import SliceAgent.Text.Quoted

/-!
# JSON values as text

Messages and log lines show a value in a form of their own: `None`, `True` and `False` for the
constants, texts in quotes where they stand inside a value. `Json.quoted` quotes a text on its own
too, `Json.shown` shows it bare.

`Json.render` writes a value on one line, a space after each comma and colon. The text is ASCII:
other characters are escaped by their code in UTF-16, in one or two units; half of a pair of
surrogates is one unit. A table is written as an object, each key that is no text as the text that
it is written as itself.

Truth values count as the numbers zero and one, a floating-point number without a fraction counts
as that whole number, and the order of the fields of an object does not count. `Json.normal`
chooses one value of each class, so that two values are the same when their normal forms are
equal. `Json.isKey` tells the values that can serve as a key: arrays and maps cannot.
-/

namespace SliceAgent.Json

/-! ### Messages -/

mutual

/-- A value with every text in quotes. -/
def quoted : Json → String
  | .null => "None"
  | .bool b => if b then "True" else "False"
  | .int n => toString n
  | .float x => x.text
  | .text s => Text.quoted s
  | .torn t => Text.quotedPoints t
  | .arr items => "[" ++ ", ".intercalate (quotedItems items) ++ "]"
  | .obj fields => "\x7b" ++ ", ".intercalate (quotedFields fields) ++ "\x7d"
  | .table entries => "\x7b" ++ ", ".intercalate (quotedEntries entries) ++ "\x7d"

/-- The items of an array. -/
def quotedItems : List Json → List String
  | [] => []
  | v :: r => quoted v :: quotedItems r

/-- The fields of an object. -/
def quotedFields : List (String × Json) → List String
  | [] => []
  | (name, v) :: r => (Text.quoted name ++ ": " ++ quoted v) :: quotedFields r

/-- The entries of a table. -/
def quotedEntries : List (Json × Json) → List String
  | [] => []
  | (k, v) :: r => (quoted k ++ ": " ++ quoted v) :: quotedEntries r

end

/-- A value with a text shown bare. -/
def shown : Json → String
  | .text s => s
  | .torn t => t.shown
  | v => v.quoted

@[simp]
theorem shown_text (s : String) : shown (.text s) = s := rfl

/-! ### JSON texts -/

/-- The units of a code point in UTF-16. -/
def units16 (n : Nat) : List Nat :=
  if n < 0x10000 then [n]
  else [0xd800 + (n - 0x10000) / 0x400, 0xdc00 + (n - 0x10000) % 0x400]

/-- One character of a text between double quotes. -/
def escapeChar (c : Char) : String :=
  if c = '"' then "\\\""
  else if c = '\\' then "\\\\"
  else if c = '\n' then "\\n"
  else if c = '\r' then "\\r"
  else if c = '\t' then "\\t"
  else if c.toNat = 8 then "\\b"
  else if c.toNat = 12 then "\\f"
  else if 0x20 ≤ c.toNat ∧ c.toNat < 0x7f then c.toString
  else String.join ((units16 c.toNat).map fun u => "\\u" ++ Text.hexDigits 4 u)

/-- A text between double quotes. -/
def renderText (s : String) : String :=
  s.toList.foldl (fun acc c => acc ++ escapeChar c) "\"" ++ "\""

/-- One code point of a text between double quotes. -/
def escapePoint : Text.CodePoint → String
  | .char c => escapeChar c
  | .half code => "\\u" ++ Text.hexDigits 4 code

/-- The text of a floating-point number, with words for those that have no digits. -/
def renderFloat (x : Binary64) : String :=
  match x.decode with
  | .finite _ _ _ => x.text
  | .infinite negative => if negative then "-Infinity" else "Infinity"
  | .notANumber => "NaN"

/-- A text of code points between double quotes. -/
def renderPoints (t : Text.CodeText) : String :=
  t.foldl (fun acc c => acc ++ escapePoint c) "\"" ++ "\""

mutual

/-- The text of a value. -/
def render : Json → String
  | .null => "null"
  | .bool b => if b then "true" else "false"
  | .int n => toString n
  | .float x => renderFloat x
  | .text s => renderText s
  | .torn t => renderPoints t
  | .arr items => "[" ++ ", ".intercalate (renderItems items) ++ "]"
  | .obj fields => "\x7b" ++ ", ".intercalate (renderFields fields) ++ "\x7d"
  | .table entries => "\x7b" ++ ", ".intercalate (renderEntries entries) ++ "\x7d"

/-- The texts of the items of an array. -/
def renderItems : List Json → List String
  | [] => []
  | v :: r => render v :: renderItems r

/-- The texts of the fields of an object. -/
def renderFields : List (String × Json) → List String
  | [] => []
  | (name, v) :: r => (renderText name ++ ": " ++ render v) :: renderFields r

/-- The texts of the entries of a table. -/
def renderEntries : List (Json × Json) → List String
  | [] => []
  | (.text name, v) :: r => (renderText name ++ ": " ++ render v) :: renderEntries r
  | (.torn t, v) :: r => (renderPoints t ++ ": " ++ render v) :: renderEntries r
  | (k, v) :: r => (renderText (render k) ++ ": " ++ render v) :: renderEntries r

end

/-! ### Values that count as the same -/

/-- Sorted by their texts, the keys of a table have one order. -/
def sortEntries (entries : List (Json × Json)) : List (Json × Json) :=
  entries.mergeSort fun a b => decide (a.1.quoted ≤ b.1.quoted)

mutual

/-- The representative of a value. -/
def normal : Json → Json
  | .null => .null
  | .bool b => .int (if b then 1 else 0)
  | .int n => .int n
  | .float x => match x.toInt? with
    | some n => .int n
    | none => .float x
  | .text s => .text s
  | .torn t => .torn t
  | .arr items => .arr (normalItems items)
  | .obj fields => .obj (sortFields (normalFields fields))
  | .table entries => .table (sortEntries (normalEntries entries))

/-- The representatives of the items of an array. -/
def normalItems : List Json → List Json
  | [] => []
  | v :: r => normal v :: normalItems r

/-- The representatives of the fields of an object. -/
def normalFields : List (String × Json) → List (String × Json)
  | [] => []
  | (name, v) :: r => (name, normal v) :: normalFields r

/-- The representatives of the entries of a table. -/
def normalEntries : List (Json × Json) → List (Json × Json)
  | [] => []
  | (k, v) :: r => (normal k, normal v) :: normalEntries r

end

/-- Whether two values count as the same. -/
def same (a b : Json) : Bool :=
  decide (a.normal = b.normal)

@[simp]
theorem normal_text (s : String) : normal (.text s) = .text s := by
  rw [normal]

theorem same_text (s t : String) : same (.text s) (.text t) = decide (s = t) := by
  simp [same]

/-- Whether a value can serve as a key. -/
def isKey : Json → Bool
  | .arr _ | .obj _ | .table _ => false
  | _ => true

/-- The text of a value, if it is one. -/
def text? : Json → Option String
  | .text s => some s
  | _ => none

/-- Whether a value counts as present in a condition: not `null`, false, zero or empty. -/
def isTruthy : Json → Bool
  | .null => false
  | .bool b => b
  | .int n => n != 0
  | .float x => match x.decode with
    | .finite _ m _ => m != 0
    | _ => true
  | .text s => s != ""
  | .torn _ => true
  | .arr items => !items.isEmpty
  | .obj fields => !fields.isEmpty
  | .table entries => !entries.isEmpty

end SliceAgent.Json
