import SliceAgent.Yaml.Fault
import SliceAgent.Text.Encoding

/-!
# YAML tokens

A text is cut into tokens: marks of punctuation, scalars, names and tags, and the beginnings and
ends of collections, which in blocks are told by the indentation alone.

A `Cursor` is what is left of a text and the place where that begins. The character `U+0000`, which
no text holds, stands for the end of the text. A line ends with a line feed, `U+0085` or one of the
two Unicode separators, and the byte order mark takes no column.

Anchors and aliases have names. A tag is a handle and a suffix, or an address between angle
brackets; in its suffix an octet can be given by two hexadecimal digits behind a percent sign. A
directive is a line of its own that begins with a percent sign. Each reader takes the place where
its token begins, which its faults tell.
-/

namespace SliceAgent.Yaml

/-! ### Going through a text -/

/-- The character that stands for the end of a text. -/
def endChar : Char := Char.ofNat 0

/-- Whether a character ends a line. -/
def isBreak (c : Char) : Bool :=
  c == '\n' || c.toNat == 0x85 || c.toNat == 0x2028 || c.toNat == 0x2029

/-- Whether a line has nothing more at a character. -/
def isLineEnd (c : Char) : Bool :=
  c == endChar || isBreak c

/-- Whether a character is a space, or a line has nothing more at it. -/
def isSpaceOrEnd (c : Char) : Bool :=
  c == ' ' || isLineEnd c

/-- Whether a character is a space or a tab, or a line has nothing more at it. -/
def isBlankOrEnd (c : Char) : Bool :=
  c == '\t' || isSpaceOrEnd c

/-- The characters of names: ASCII letters and digits, the hyphen and the underscore. -/
def isNameChar (c : Char) : Bool :=
  c.isAlphanum || c == '-' || c == '_'

/-- The place behind a character. -/
def Mark.after (m : Mark) (c : Char) : Mark :=
  if isBreak c then ⟨m.index + 1, m.line + 1, 0⟩
  else if c.toNat = 0xfeff then { m with index := m.index + 1 }
  else { m with index := m.index + 1, column := m.column + 1 }

/-- What is left of a text, and where it begins. -/
structure Cursor where
  rest : List Char
  mark : Mark := {}

namespace Cursor

/-- The next character. -/
def peek (c : Cursor) : Char :=
  c.rest.headD endChar

/-- The character behind some others. -/
def peekAt (c : Cursor) (count : Nat) : Char :=
  (c.rest.drop count).headD endChar

/-- The text behind the next character. -/
def next (c : Cursor) : Cursor :=
  match c.rest with
  | [] => c
  | x :: r => ⟨r, c.mark.after x⟩

/-- The text behind some characters. -/
def skip (c : Cursor) (count : Nat) : Cursor :=
  ⟨c.rest.drop count, (c.rest.take count).foldl Mark.after c.mark⟩

/-- The characters of a kind that the text begins with, and the text behind them. -/
def takeWhile (p : Char → Bool) (c : Cursor) : List Char × Cursor :=
  let taken := c.rest.takeWhile p
  (taken, ⟨c.rest.dropWhile p, taken.foldl Mark.after c.mark⟩)

/-- The text behind the characters of a kind. -/
def dropWhile (p : Char → Bool) (c : Cursor) : Cursor :=
  (c.takeWhile p).2

/-- The end of a line, as it counts within a text, and the text behind it. The line feed stands
for all but the two separators. -/
def takeBreak? (c : Cursor) : Option (Char × Cursor) :=
  if isBreak c.peek then
    some (if c.peek.toNat = 0x85 then '\n' else c.peek, c.next)
  else none

/-- The text behind the end of a line, if one comes next. -/
def skipBreak (c : Cursor) : Cursor :=
  (c.takeBreak?.map (·.2)).getD c

/-- The text behind the spaces and the comment at the end of a line. -/
def skipComment (c : Cursor) : Cursor :=
  let c := c.dropWhile (· == ' ')
  if c.peek = '#' then c.dropWhile (!isLineEnd ·) else c

/-- Whether three characters stand by themselves at a place. -/
def hasIndicator (c : Cursor) (x : Char) : Bool :=
  c.rest.take 3 == [x, x, x] && isBlankOrEnd (c.peekAt 3)

/-- Whether a line separates documents. -/
def isSeparator (c : Cursor) : Bool :=
  c.hasIndicator '-' || c.hasIndicator '.'

/-- A character as faults show it. -/
def shown (c : Char) : String :=
  Text.quoted c.toString

/-- The next character as faults show it. -/
def peekShown (c : Cursor) : String :=
  shown c.peek

end Cursor

/-! ### Tokens -/

/-- What a directive says. -/
inductive Directive where
  /-- The version that a document keeps to. -/
  | version (major minor : Nat)
  /-- What a handle of tags stands for. -/
  | tagHandle (handle stem : String)
  /-- Something that is not known. -/
  | other
  deriving DecidableEq, Repr

/-- The kinds of tokens. -/
inductive TokenKind where
  | streamStart
  | streamEnd
  | directive (d : Directive)
  | documentStart
  | documentEnd
  | blockSequenceStart
  | blockMappingStart
  | blockEnd
  | flowSequenceStart
  | flowSequenceEnd
  | flowMappingStart
  | flowMappingEnd
  | blockEntry
  | flowEntry
  | key
  | value
  | alias (name : String)
  | anchor (name : String)
  /-- A tag, by its handle if it has one, and what follows the handle. -/
  | tag (handle : Option String) (suffix : String)
  /-- The text of a scalar, and whether it stands without quotes. -/
  | scalar (text : Text.CodeText) (isPlain : Bool)
  deriving DecidableEq, Repr

/-- The name of a kind in faults. -/
def TokenKind.name : TokenKind → String
  | .streamStart => "<stream start>"
  | .streamEnd => "<stream end>"
  | .directive _ => "<directive>"
  | .documentStart => "<document start>"
  | .documentEnd => "<document end>"
  | .blockSequenceStart => "<block sequence start>"
  | .blockMappingStart => "<block mapping start>"
  | .blockEnd => "<block end>"
  | .flowSequenceStart => "["
  | .flowSequenceEnd => "]"
  | .flowMappingStart => "\x7b"
  | .flowMappingEnd => "\x7d"
  | .blockEntry => "-"
  | .flowEntry => ","
  | .key => "?"
  | .value => ":"
  | .alias _ => "<alias>"
  | .anchor _ => "<anchor>"
  | .tag _ _ => "<tag>"
  | .scalar _ _ => "<scalar>"

/-- A token with the places where it begins and ends. -/
structure Token where
  kind : TokenKind
  start : Mark
  stop : Mark
  deriving DecidableEq, Repr

/-- The name of a token as faults show it. -/
def Token.shown (t : Token) : String :=
  Text.quoted t.kind.name

/-- A token that takes no characters. -/
def Token.at (kind : TokenKind) (m : Mark) : Token :=
  ⟨kind, m, m⟩

/-- The fault of a token that began at a place, at the next character. -/
def Cursor.fault {α : Type} (c : Cursor) (context : String) (start : Mark) (problem : String) :
    Except Fault α :=
  .error (.within .token context start problem c.mark)

namespace Token

/-! ### Anchors and aliases -/

/-- What may follow a name. -/
def endsName (c : Char) : Bool :=
  isBlankOrEnd c || "?:,]\x7d%@\x60".contains c

/-- Reads an anchor or an alias. -/
def readName (c : Cursor) : Except Fault (Token × Cursor) := do
  let start := c.mark
  let isAlias := c.peek == '*'
  let context := "while scanning an " ++ if isAlias then "alias" else "anchor"
  let (name, rest) := c.next.takeWhile isNameChar
  let expected (c : Cursor) : String :=
    "expected alphabetic or numeric character, but found " ++ c.peekShown
  if name.isEmpty then c.next.fault context start (expected c.next)
  else if !endsName rest.peek then rest.fault context start (expected rest)
  else
    let name := String.ofList name
    return (⟨if isAlias then .alias name else .anchor name, start, rest.mark⟩, rest)

/-! ### Tags -/

/-- The characters of addresses. -/
def isAddressChar (c : Char) : Bool :=
  c.isAlphanum || "-;/?:@&=+$,_.!~*'()[]%".contains c

/-- Reads octets given by hexadecimal digits. -/
def readEscapes (what : String) (start : Mark) : Nat → Cursor → Except Fault (List UInt8 × Cursor)
  | 0, c => .ok ([], c)
  | fuel + 1, c =>
    if c.peek != '%' then .ok ([], c)
    else
      let digits := c.next
      match Text.hexValue? digits.peek, Text.hexValue? (digits.peekAt 1) with
      | some a, some b => do
        let (octets, rest) ← readEscapes what start fuel (digits.skip 2)
        return (.ofNat (a * 16 + b) :: octets, rest)
      | first, _ =>
        let bad := if first.isNone then digits.peek else digits.peekAt 1
        digits.fault s!"while scanning a {what}" start
          ("expected URI escape sequence of 2 hexadecimal numbers, but found " ++ Cursor.shown bad)

/-- Reads the characters of an address; `none` stands for an address without characters. -/
def readAddressFrom (what : String) (start : Mark) :
    Nat → Cursor → Except Fault (Option (List Char) × Cursor)
  | 0, c => .ok (none, c)
  | fuel + 1, c =>
    let (taken, c) := c.takeWhile fun x => isAddressChar x && x != '%'
    if c.peek != '%' then .ok (if taken.isEmpty then none else some taken, c)
    else do
      let (octets, after) ← readEscapes what start (c.rest.length + 1) c
      match Text.Utf8.decode octets with
      | .error f => c.fault s!"while scanning a {what}" start f.message
      | .ok s =>
        let (more, rest) ← readAddressFrom what start fuel after
        return (some (taken ++ s.toList ++ more.getD []), rest)

/-- Reads an address. -/
def readAddress (what : String) (start : Mark) (c : Cursor) : Except Fault (String × Cursor) := do
  match ← readAddressFrom what start (c.rest.length + 1) c with
  | (some cs, rest) => return (.ofList cs, rest)
  | (none, rest) =>
    rest.fault s!"while parsing a {what}" start ("expected URI, but found " ++ rest.peekShown)

/-- Reads a handle: one exclamation mark, or two with a name between them that may be empty. -/
def readHandle (what : String) (start : Mark) (c : Cursor) : Except Fault (String × Cursor) :=
  let expected (c : Cursor) : Except Fault (String × Cursor) :=
    c.fault s!"while scanning a {what}" start ("expected '!', but found " ++ c.peekShown)
  if c.peek != '!' then expected c
  else if c.peekAt 1 == ' ' then .ok ("!", c.next)
  else
    let (name, rest) := c.next.takeWhile isNameChar
    if rest.peek != '!' then expected rest
    else .ok ("!" ++ .ofList name ++ "!", rest.next)

/-- Reads a tag. -/
def readTag (c : Cursor) : Except Fault (Token × Cursor) := do
  let start := c.mark
  let what := "tag"
  let (handle, suffix, rest) : Option String × String × Cursor ←
    if c.peekAt 1 == '<' then do
      let (address, rest) ← readAddress what start (c.skip 2)
      if rest.peek != '>' then
        rest.fault "while parsing a tag" start ("expected '>', but found " ++ rest.peekShown)
      else pure (none, address, rest.next)
    else if isBlankOrEnd (c.peekAt 1) then pure (none, "!", c.next)
    else do
      -- A second exclamation mark before the next space ends a handle with a name.
      let word := (c.next.takeWhile (!isSpaceOrEnd ·)).1
      let (handle, after) ← if word.contains '!' then readHandle what start c
        else pure ("!", c.next)
      let (suffix, rest) ← readAddress what start after
      pure (some handle, suffix, rest)
  if !isSpaceOrEnd rest.peek then
    rest.fault "while scanning a tag" start ("expected ' ', but found " ++ rest.peekShown)
  else return (⟨.tag handle suffix, start, rest.mark⟩, rest)

/-! ### Directives -/

/-- What is being read in a directive. -/
def directiveContext : String := "while scanning a directive"

/-- Reads a run of digits. -/
def readDigits (start : Mark) (c : Cursor) : Except Fault (Nat × Cursor) := do
  let (digits, rest) := c.takeWhile Char.isDigit
  if digits.isEmpty then
    c.fault directiveContext start ("expected a digit, but found " ++ c.peekShown)
  else if digitLimit < digits.length then .error (.scalar (.tooManyDigits digits.length))
  else return (natOfDigits 10 (digits.filterMap Text.asciiDigit?), rest)

/-- Reads the version of a directive. -/
def readVersion (start : Mark) (c : Cursor) : Except Fault (Directive × Cursor) := do
  let (major, point) ← readDigits start (c.dropWhile (· == ' '))
  if point.peek != '.' then
    point.fault directiveContext start ("expected a digit or '.', but found " ++ point.peekShown)
  else
    let (minor, rest) ← readDigits start point.next
    if !isSpaceOrEnd rest.peek then
      rest.fault directiveContext start ("expected a digit or ' ', but found " ++ rest.peekShown)
    else return (.version major minor, rest)

/-- Reads the handle of a directive and what it stands for. -/
def readTagHandle (start : Mark) (c : Cursor) : Except Fault (Directive × Cursor) := do
  let what := "directive"
  let (handle, after) ← readHandle what start (c.dropWhile (· == ' '))
  if after.peek != ' ' then
    after.fault directiveContext start ("expected ' ', but found " ++ after.peekShown)
  else
    let (stem, rest) ← readAddress what start (after.dropWhile (· == ' '))
    if !isSpaceOrEnd rest.peek then
      rest.fault directiveContext start ("expected ' ', but found " ++ rest.peekShown)
    else return (.tagHandle handle stem, rest)

/-- Reads a directive. -/
def readDirective (c : Cursor) : Except Fault (Token × Cursor) := do
  let start := c.mark
  let (name, after) := c.next.takeWhile isNameChar
  if name.isEmpty ∨ !isSpaceOrEnd after.peek then
    after.fault directiveContext start
      ("expected alphabetic or numeric character, but found " ++ after.peekShown)
  else
    let (directive, rest) ← match String.ofList name with
      | "YAML" => readVersion start after
      | "TAG" => readTagHandle start after
      | _ => pure (.other, after.dropWhile (!isLineEnd ·))
    -- A directive that is not known ends before the end of its line, as the others do.
    let line := rest.skipComment
    if !isLineEnd line.peek then
      line.fault directiveContext start
        ("expected a comment or a line break, but found " ++ line.peekShown)
    else return (⟨.directive directive, start, rest.mark⟩, line.skipBreak)

end Token

end SliceAgent.Yaml
