import SliceAgent.Decimal.Basic
import SliceAgent.Json.Basic

/-!
# Reading JSON

`Json.read` reads a text as one value. The text is cut into tokens first (`Json.Token.scan`):
brackets, commas and colons, texts between double quotes, and runs of all other characters. The scan
goes through the characters once; `Scan` says where it stands. A text may not hold control
characters. A character beyond `U+FFFF` may be escaped as two halves, and a half that has no partner
stays one. A text that is ill-formed is the last token.

A run of other characters begins with a word, a constant or a number. `Word.atStart?` takes the
longest word off its front and leaves its end (`Word.rest_suffix`). The words `NaN`, `Infinity` and
`-Infinity` are numbers.

The reader goes through the tokens once, keeping the containers that are still open (`Frame`) and
what may come next (`Reading`). Of two fields of one name the last value counts, in the place of the
first. A whole number has at most `digitLimit` digits, and at most `depthLimit` containers may be
open at a time. A text that is no value has a first place at which it goes wrong: a `Flaw` is what
is wrong there, and `ReadFault` adds the limits that a value may exceed.
-/

namespace SliceAgent.Json

/-! ### Faults -/

/-- What is wrong at a place of a text. -/
inductive Problem where
  | noValue
  | noName
  | noColon
  | noComma
  /-- Something follows the value. -/
  | extra
  /-- A text does not end. -/
  | unterminated
  /-- A text holds a control character. -/
  | control
  /-- A backslash escapes nothing. -/
  | escape
  /-- The digits of an escaped code are not all there. -/
  | code
  | byteOrderMark
  deriving DecidableEq, Repr

/-- The wording of a problem. -/
def Problem.text : Problem → String
  | .noValue => "Expecting value"
  | .noName => "Expecting property name enclosed in double quotes"
  | .noColon => "Expecting ':' delimiter"
  | .noComma => "Expecting ',' delimiter"
  | .extra => "Extra data"
  | .unterminated => "Unterminated string starting at"
  | .control => "Invalid control character at"
  | .escape => "Invalid \\escape"
  | .code => "Invalid \\uXXXX escape"
  | .byteOrderMark => "Unexpected UTF-8 BOM (decode using utf-8-sig)"

/-- A problem, and the number of the characters before it. -/
structure Flaw where
  problem : Problem
  position : Nat
  deriving DecidableEq, Repr

/-- The wording of a flaw of some characters. Lines and columns are counted from one. -/
def Flaw.message (f : Flaw) (cs : List Char) : String :=
  let before := cs.take f.position
  let line := before.count '\n' + 1
  let column := (before.reverse.takeWhile (· != '\n')).length + 1
  s!"{f.problem.text}: line {line} column {column} (char {f.position})"

/-- Why a text is no value. -/
inductive ReadFault where
  | flaw (f : Flaw)
  /-- A whole number has too many digits. -/
  | tooManyDigits (count : Nat)
  /-- Too many containers are open; the flag tells whether the last one is an array. -/
  | tooDeep (isArray : Bool)
  deriving DecidableEq, Repr

/-- What is said of a text with too many containers open. -/
def tooDeepMessage (isArray : Bool) : String :=
  "maximum recursion depth exceeded while decoding a JSON " ++
    (if isArray then "array" else "object") ++ " from a unicode string"

/-- The wording of a fault of a text. -/
def ReadFault.message (s : String) : ReadFault → String
  | .flaw f => f.message s.toList
  | .tooManyDigits count => tooManyDigitsMessage count
  | .tooDeep isArray => tooDeepMessage isArray

end SliceAgent.Json

namespace SliceAgent.Json.Word

/-! ### Words -/

/-- A word: what it says and the characters behind it. -/
structure Taken where
  value : Except ReadFault Json
  rest : List Char

/-- The digits at the front, and the rest. A zero is a whole number by itself. -/
def takeWhole : List Char → List Char × List Char
  | '0' :: r => (['0'], r)
  | cs => (cs.takeWhile Char.isDigit, cs.dropWhile Char.isDigit)

/-- The digits of a fraction behind a point, at least one if there is a point to take. -/
def takeFraction (cs : List Char) : List Char × List Char :=
  match cs with
  | '.' :: r =>
    if (r.takeWhile Char.isDigit).isEmpty then ([], cs)
    else (r.takeWhile Char.isDigit, r.dropWhile Char.isDigit)
  | _ => ([], cs)

/-- The sign in front of digits. -/
def dropSign : List Char → List Char
  | '+' :: r => r
  | '-' :: r => r
  | cs => cs

/-- The value of an exponent that has digits, and the rest. -/
def takeExponent (cs : List Char) : Option Int × List Char :=
  match cs with
  | e :: r =>
    let digits := (dropSign r).takeWhile Char.isDigit
    if (e == 'e' || e == 'E') && !digits.isEmpty then
      let n := natOfDigits 10 (digits.filterMap Text.asciiDigit?)
      (some (signed (r.head? == some '-') n), (dropSign r).dropWhile Char.isDigit)
    else (none, cs)
  | [] => (none, cs)

/-- What stands behind a minus sign. -/
def dropMinus : List Char → List Char
  | '-' :: r => r
  | cs => cs

/-- The number at the front: a minus sign, digits without a needless zero in front, and optionally
a fraction and an exponent, either of which makes it a floating-point number. -/
def number? (cs : List Char) : Option Taken :=
  let negative := cs.head? == some '-'
  let (whole, afterWhole) := takeWhole (dropMinus cs)
  let (fraction, afterFraction) := takeFraction afterWhole
  let (exponent, rest) := takeExponent afterFraction
  let coefficient := natOfDigits 10 ((whole ++ fraction).filterMap Text.asciiDigit?)
  if whole.isEmpty then none
  else if fraction.isEmpty && exponent.isNone then
    if whole.length ≤ digitLimit then some ⟨.ok (.int (signed negative coefficient)), rest⟩
    else some ⟨.error (.tooManyDigits whole.length), rest⟩
  else
    let d : Decimal := ⟨negative, coefficient, exponent.getD 0 - fraction.length⟩
    some ⟨.ok (.float (.ofDecimal d)), rest⟩

/-- The words without digits. -/
def constants : List (List Char × Json) :=
  [("null".toList, .null), ("true".toList, .bool true), ("false".toList, .bool false),
   ("NaN".toList, .float .nan), ("Infinity".toList, .float .positiveInfinity),
   ("-Infinity".toList, .float .negativeInfinity)]

/-- The word at the front. -/
def atStart? (cs : List Char) : Option Taken :=
  match constants.find? fun e => e.1.isPrefixOf cs with
  | some (word, v) => some ⟨.ok v, cs.drop word.length⟩
  | none => number? cs

theorem dropMinus_suffix (cs : List Char) : dropMinus cs <:+ cs := by
  fun_cases dropMinus cs
  · exact List.suffix_cons _ _
  · exact List.suffix_rfl

theorem dropSign_suffix (cs : List Char) : dropSign cs <:+ cs := by
  fun_cases dropSign cs
  · exact List.suffix_cons _ _
  · exact List.suffix_cons _ _
  · exact List.suffix_rfl

theorem takeWhole_suffix (cs : List Char) : (takeWhole cs).2 <:+ cs := by
  fun_cases takeWhole cs
  · exact List.suffix_cons _ _
  · exact List.dropWhile_suffix _

theorem takeFraction_suffix (cs : List Char) : (takeFraction cs).2 <:+ cs := by
  fun_cases takeFraction cs
  · exact List.suffix_rfl
  · exact (List.dropWhile_suffix _).trans (List.suffix_cons _ _)
  · exact List.suffix_rfl

theorem takeExponent_suffix (cs : List Char) : (takeExponent cs).2 <:+ cs := by
  fun_cases takeExponent cs
  · exact ((List.dropWhile_suffix _).trans (dropSign_suffix _)).trans (List.suffix_cons _ _)
  · exact List.suffix_rfl
  · exact List.suffix_rfl

theorem number?_rest {cs : List Char} {t : Taken} (h : number? cs = some t) :
    t.rest = (takeExponent (takeFraction (takeWhole (dropMinus cs)).2).2).2 := by
  simp only [number?] at h
  grind

theorem number?_rest_suffix {cs : List Char} {t : Taken} (h : number? cs = some t) :
    t.rest <:+ cs := by
  rw [number?_rest h]
  exact ((takeExponent_suffix _).trans (takeFraction_suffix _)).trans
    ((takeWhole_suffix _).trans (dropMinus_suffix _))

/-- Nothing but the front is taken. -/
theorem rest_suffix {cs : List Char} {t : Taken} (h : atStart? cs = some t) : t.rest <:+ cs := by
  rw [atStart?] at h
  split at h
  · obtain rfl := Option.some.inj h
    exact List.drop_suffix _ cs
  · exact number?_rest_suffix h

end SliceAgent.Json.Word

namespace SliceAgent.Json

/-! ### Tokens -/

/-- What a text is told apart into: marks, texts between quotes, and runs of all else. -/
inductive Token where
  | mark (c : Char)
  | text (t : Text.CodeText)
  | run (cs : List Char)
  /-- What begins as a text and is none. -/
  | broken (f : Flaw)
  deriving DecidableEq, Repr

namespace Token

/-- A text that is being read: where it starts, its code points, last one first, and a first half
that still waits for its partner. -/
structure Open where
  start : Nat
  done : Text.CodeText := []
  high : Option Nat := none

/-- Gives up waiting for the partner of a half. -/
def Open.settle (o : Open) : Open :=
  { o with done := (o.high.map .half).toList ++ o.done, high := none }

/-- Adds a code point. -/
def Open.add (o : Open) (p : Text.CodePoint) : Open :=
  let o := o.settle
  { o with done := p :: o.done }

/-- Adds the code point of an escaped code. -/
def Open.addCode (o : Open) (v : Nat) : Open :=
  if 0xd800 ≤ v ∧ v < 0xdc00 then { o.settle with high := some v }
  else match o.high with
    | some h =>
      if 0xdc00 ≤ v ∧ v < 0xe000 then
        { o with done := .char (Text.CodeText.joined h v) :: o.done, high := none }
      else o.add (.ofCode v)
    | none => o.add (.ofCode v)

/-- Where the scan stands: between tokens, in a run, in a text, after a backslash, or in the
four digits of an escaped code, of which some are left. -/
inductive Scan where
  | between
  | run (start : Nat) (done : List Char)
  | text (o : Open)
  | escape (o : Open)
  | code (o : Open) (left value : Nat)

/-- The character that a backslash and a letter stand for. -/
def escaped? : Char → Option Char
  | '"' => some '"'
  | '\\' => some '\\'
  | '/' => some '/'
  | 'b' => some (Char.ofNat 8)
  | 'f' => some (Char.ofNat 12)
  | 'n' => some '\n'
  | 'r' => some '\r'
  | 't' => some '\t'
  | _ => none

/-- Whether a character may stand between tokens. -/
def isBlank (c : Char) : Bool :=
  c == ' ' || c == '\t' || c == '\n' || c == '\r'

/-- Whether a character is a token by itself. -/
def isMark (c : Char) : Bool :=
  c == '[' || c == ']' || c == '{' || c == '}' || c == ',' || c == ':'

/-- A token, and the number of the characters before it. -/
structure Placed where
  position : Nat
  token : Token

/-- The open run as a token, if there is one, in front of the others found. -/
def Scan.close : Scan → List Placed → List Placed
  | .run start done, found => ⟨start, .run done.reverse⟩ :: found
  | _, found => found

/-- One character on, outside of texts. -/
def stepOutside (state : Scan) (i : Nat) (c : Char) (found : List Placed) : Scan × List Placed :=
  if isBlank c then (.between, state.close found)
  else if isMark c then (.between, ⟨i, .mark c⟩ :: state.close found)
  else if c = '"' then (.text { start := i }, state.close found)
  else match state with
    | .run start done => (.run start (c :: done), found)
    | _ => (.run i [c], found)

/-- One character on, at a position; `found` holds the tokens so far, last one first. -/
def step (state : Scan) (i : Nat) (c : Char) (found : List Placed) :
    Except Placed (Scan × List Placed) :=
  let fail (o : Open) (problem : Problem) (position : Nat) : Except Placed (Scan × List Placed) :=
    .error ⟨o.start, .broken ⟨problem, position⟩⟩
  match state with
  | .text o =>
    if c = '"' then .ok (.between, ⟨o.start, .text o.settle.done.reverse⟩ :: found)
    else if c = '\\' then .ok (.escape o, found)
    else if c.toNat < 0x20 then fail o .control i
    else .ok (.text (o.add (.char c)), found)
  | .escape o =>
    if c = 'u' then .ok (.code o 4 0, found)
    else match escaped? c with
      | some e => .ok (.text (o.add (.char e)), found)
      | none => fail o .escape (i - 1)
  | .code o left value =>
    match Text.hexValue? c with
    | some d =>
      if left ≤ 1 then .ok (.text (o.addCode (value * 16 + d)), found)
      else .ok (.code o (left - 1) (value * 16 + d), found)
    | none => fail o .code (i + left - 5)
  | outside => .ok (stepOutside outside i c found)

/-- The token that a text breaks off with. -/
def Scan.finish : Scan → Nat → List Placed → List Placed
  | .text o, _, found | .escape o, _, found =>
    ⟨o.start, .broken ⟨.unterminated, o.start⟩⟩ :: found
  | .code o left _, i, found => ⟨o.start, .broken ⟨.code, i + left - 5⟩⟩ :: found
  | outside, _, found => outside.close found

/-- Goes through the characters up to the end, or to where a text is ill-formed. -/
def scanFrom : Scan → Nat → List Placed → List Char → List Placed
  | state, i, found, [] => (state.finish i found).reverse
  -- Something has to follow the digits of a code.
  | .code o left value, i, found, [_] => (Scan.finish (.code o left value) i found).reverse
  | state, i, found, c :: r =>
    match step state i c found with
    | .ok (next, found) => scanFrom next (i + 1) found r
    | .error last => (last :: found).reverse

/-- The tokens of some characters. -/
def scan (cs : List Char) : List Placed :=
  scanFrom .between 0 [] cs

end Token

/-! ### Values -/

/-- A container that is still open: the items so far, last one first, or the fields so far and the
name of the one whose value is being read. -/
inductive Frame where
  | items (done : List Json)
  | fields (done : List (String × Json)) (name : String)

/-- What has been read of a text and what may follow. -/
inductive Reading where
  /-- A value has to follow. -/
  | value (stack : List Frame)
  /-- An array was just opened. -/
  | firstItem (stack : List Frame)
  /-- An object was just opened. -/
  | firstName (stack : List Frame)
  /-- A name has to follow. -/
  | nextName (fields : List (String × Json)) (stack : List Frame)
  /-- A colon has to follow. -/
  | colon (fields : List (String × Json)) (name : String) (stack : List Frame)
  /-- A value is complete. -/
  | complete (v : Json) (stack : List Frame)

/-- What is wrong if nothing that may follow does. -/
def Reading.problem : Reading → Problem
  | .value _ | .firstItem _ => .noValue
  | .firstName _ | .nextName _ _ => .noName
  | .colon _ _ _ => .noColon
  | .complete _ [] => .extra
  | .complete _ (_ :: _) => .noComma

/-- Reads the characters of a run as a value, behind which the run has to end. -/
def startRun (stack : List Frame) (position : Nat) (cs : List Char) : Except ReadFault Reading := do
  match Word.atStart? cs with
  | none => throw (.flaw ⟨.noValue, position⟩)
  | some taken =>
    let state : Reading := .complete (← taken.value) stack
    if taken.rest.isEmpty then return state
    throw (.flaw ⟨state.problem, position + (cs.length - taken.rest.length)⟩)

/-- Reads a token where a value has to stand. -/
def startValue (stack : List Frame) (t : Token.Placed) : Except ReadFault Reading :=
  match t.token with
  | .text s => .ok (.complete (.ofPoints s) stack)
  | .run cs => startRun stack t.position cs
  | .mark '[' => .ok (.firstItem stack)
  | .mark '{' => .ok (.firstName stack)
  | .mark _ => .error (.flaw ⟨.noValue, t.position⟩)
  | .broken f => .error (.flaw f)

/-- Reads a token after a complete value, if it may stand there. -/
def continueAfter? (v : Json) : List Frame → Token → Option Reading
  | .items done :: stack, .mark ',' => some (.value (.items (v :: done) :: stack))
  | .items done :: stack, .mark ']' => some (.complete (.arr (v :: done).reverse) stack)
  | .fields done name :: stack, .mark ',' => some (.nextName (setField name v done) stack)
  | .fields done name :: stack, .mark '}' => some (.complete (.obj (setField name v done)) stack)
  | _, _ => none

/-- Reads one token. A name is kept as it is shown. -/
def Reading.step (state : Reading) (t : Token.Placed) : Except ReadFault Reading :=
  let unexpected : ReadFault := .flaw ⟨state.problem, t.position⟩
  match state, t.token with
  | .value stack, _ => startValue stack t
  | .firstItem stack, .mark ']' => .ok (.complete (.arr []) stack)
  | .firstItem stack, _ => startValue (.items [] :: stack) t
  | .firstName stack, .mark '}' => .ok (.complete (.obj []) stack)
  | .firstName stack, .text s => .ok (.colon [] s.shown stack)
  | .nextName fields stack, .text s => .ok (.colon fields s.shown stack)
  | .firstName _, .broken f | .nextName _ _, .broken f => .error (.flaw f)
  | .colon fields name stack, .mark ':' => .ok (.value (.fields fields name :: stack))
  | .complete v stack, token => (continueAfter? v stack token).elim (.error unexpected) .ok
  | .firstName _, _ | .nextName _ _, _ | .colon _ _ _, _ => .error unexpected

/-- The most containers that may be open at a time. -/
def depthLimit : Nat := 980

/-- Whether a container that was just opened is one too many. -/
def Reading.excess? : Reading → Option ReadFault
  | .firstItem stack => if depthLimit ≤ stack.length then some (.tooDeep true) else none
  | .firstName stack => if depthLimit ≤ stack.length then some (.tooDeep false) else none
  | _ => none

/-- Reads tokens one after another. -/
def readTokens : Reading → List Token.Placed → Except ReadFault Reading
  | state, [] => .ok state
  | state, t :: r =>
    match state.step t with
    | .error fault => .error fault
    | .ok next => match next.excess? with
      | some fault => .error fault
      | none => readTokens next r

/-- Reads characters as one value. -/
def readChars (cs : List Char) : Except ReadFault Json := do
  if cs.head? = some (Char.ofNat 0xfeff) then throw (.flaw ⟨.byteOrderMark, 0⟩)
  match ← readTokens (.value []) (Token.scan cs) with
  | .complete v [] => return v
  | state => throw (.flaw ⟨state.problem, cs.length⟩)

/-- Reads a text as one value. -/
def read (s : String) : Except ReadFault Json :=
  readChars s.toList

/-- The value that a text spells. -/
def parse? (s : String) : Option Json :=
  (read s).toOption

end SliceAgent.Json
