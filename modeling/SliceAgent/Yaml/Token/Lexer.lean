import SliceAgent.Yaml.Token.Scalar

/-!
# Cutting a text into tokens

A key needs no mark of its own: that a token was a key is known only when the colon behind it is
found. `Lexer` therefore keeps tokens back as long as one of them may still turn out to be a key, at
most one for each level of brackets (`PossibleKey`), within one line and `keyReach` characters. When
the colon comes, the mark of the key is put in front of it, and that of a block mapping if the key
is indented further than the block around it.

`Token.scan` gives the tokens of a text up to its end, or up to the first fault.
-/

namespace SliceAgent.Yaml

/-- A token that may turn out to be a key: its number among all tokens, whether only a key may stand
there, and where it begins. -/
structure PossibleKey where
  number : Nat
  isRequired : Bool
  mark : Mark

/-- What is left of a text and what was found out about it. -/
structure Lexer where
  cursor : Cursor
  isDone : Bool := false
  /-- The brackets that are open. -/
  flowLevel : Nat := 0
  /-- The tokens that are kept back, and the number of those given out. -/
  queue : List Token := []
  given : Nat := 0
  /-- The indentation of the block, and those of the blocks around it. -/
  indent : Int := -1
  indents : List Int := []
  /-- Whether a key may start here. -/
  allowsKey : Bool := true
  /-- The possible keys by the level of brackets that they stand at. -/
  keys : List (Nat × PossibleKey) := []

/-- The most characters between a key and its colon. -/
def keyReach : Nat := 1024

namespace Lexer

/-- Whether the text outside of brackets is read. -/
def inBlock (l : Lexer) : Bool :=
  l.flowLevel == 0

/-- The place that is reached. -/
def mark (l : Lexer) : Mark :=
  l.cursor.mark

/-- Keeps a token back. -/
def push (t : Token) (l : Lexer) : Lexer :=
  { l with queue := l.queue ++ [t] }

/-- Takes some characters as a token. -/
def pushMark (kind : TokenKind) (count : Nat) (l : Lexer) : Lexer :=
  let rest := l.cursor.skip count
  { l.push ⟨kind, l.mark, rest.mark⟩ with cursor := rest }

/-! ### Possible keys -/

/-- The fault of a place where only a key may stand. -/
def noColon {α : Type} (l : Lexer) (key : PossibleKey) : Except Fault α :=
  .error <|
    .within .token "while scanning a simple key" key.mark "could not find expected ':'" l.mark

/-- Gives up the keys that the text has gone too far from. -/
def dropStaleKeys (l : Lexer) : Except Fault Lexer :=
  let isStale (k : PossibleKey) : Bool :=
    k.mark.line != l.mark.line || decide (keyReach < l.mark.index - k.mark.index)
  match l.keys.find? fun e => isStale e.2 && e.2.isRequired with
  | some (_, key) => l.noColon key
  | none => .ok { l with keys := l.keys.filter (!isStale ·.2) }

/-- Gives up the key of the level that is reached. -/
def dropKey (l : Lexer) : Except Fault Lexer :=
  match l.keys.find? (·.1 == l.flowLevel) with
  | some (_, key) =>
    if key.isRequired then l.noColon key
    else .ok { l with keys := l.keys.filter (·.1 != l.flowLevel) }
  | none => .ok l

/-- Notes that the next token may be a key. -/
def noteKey (l : Lexer) : Except Fault Lexer := do
  if !l.allowsKey then return l
  let isRequired := l.inBlock && decide (l.indent = l.mark.column)
  let l ← l.dropKey
  let key : PossibleKey := ⟨l.given + l.queue.length, isRequired, l.mark⟩
  return { l with keys := l.keys ++ [(l.flowLevel, key)] }

/-- The number of the first token that may be a key. -/
def firstKey? (l : Lexer) : Option Nat :=
  (l.keys.map (·.2.number)).min?

/-! ### Indentation -/

/-- Closes the blocks that are indented further than a column. -/
def closeBlocks (column : Int) : List Int → Lexer → Lexer
  | [], l => l
  | outer :: more, l =>
    if column < l.indent then
      let l := l.push (.at .blockEnd l.mark)
      closeBlocks column more { l with indent := outer, indents := more }
    else l

/-- Closes the blocks that end before the column that is reached; brackets are not indented. -/
def unindent (column : Int) (l : Lexer) : Lexer :=
  if l.inBlock then closeBlocks column l.indents l else l

/-- Whether a column is indented further than the block, and the block that it opens then. -/
def openBlock (column : Nat) (l : Lexer) : Bool × Lexer :=
  if l.indent < column then
    (true, { l with indent := column, indents := l.indent :: l.indents })
  else (false, l)

/-- Opens a block at the column that is reached if it is indented further. -/
def openBlockHere (kind : TokenKind) (l : Lexer) : Lexer :=
  let (isNew, l) := l.openBlock l.mark.column
  if isNew then l.push (.at kind l.mark) else l

/-! ### Single tokens -/

/-- The fault of a token that may not stand where it does. -/
def notAllowed {α : Type} (l : Lexer) (what : String) : Except Fault α :=
  .error (.plain .token (what ++ " are not allowed here") l.mark)

/-- Adds a token that was read and may have been a key. -/
def pushKeyLike (read : Cursor → Except Fault (Token × Cursor)) (l : Lexer) :
    Except Fault Lexer := do
  let l ← l.noteKey
  let (t, rest) ← read l.cursor
  return { l.push t with cursor := rest, allowsKey := false }

/-- The end of the text. -/
def pushEnd (l : Lexer) : Except Fault Lexer := do
  let l ← (l.unindent (-1)).dropKey
  return { l.push (.at .streamEnd l.mark) with isDone := true, allowsKey := false, keys := [] }

/-- A directive. -/
def pushDirective (l : Lexer) : Except Fault Lexer := do
  let l ← (l.unindent (-1)).dropKey
  let (t, rest) ← Token.readDirective l.cursor
  return { l.push t with cursor := rest, allowsKey := false }

/-- The beginning or the end of a document. -/
def pushSeparator (kind : TokenKind) (l : Lexer) : Except Fault Lexer := do
  let l ← (l.unindent (-1)).dropKey
  return { l with allowsKey := false }.pushMark kind 3

/-- An opening bracket. -/
def pushOpening (kind : TokenKind) (l : Lexer) : Except Fault Lexer := do
  let l ← l.noteKey
  return { l with flowLevel := l.flowLevel + 1, allowsKey := true }.pushMark kind 1

/-- A closing bracket. -/
def pushClosing (kind : TokenKind) (l : Lexer) : Except Fault Lexer := do
  let l ← l.dropKey
  return { l with flowLevel := l.flowLevel - 1, allowsKey := false }.pushMark kind 1

/-- A comma between brackets. -/
def pushFlowEntry (l : Lexer) : Except Fault Lexer := do
  let l ← l.dropKey
  return { l with allowsKey := true }.pushMark .flowEntry 1

/-- The hyphen of an entry. -/
def pushBlockEntry (l : Lexer) : Except Fault Lexer := do
  if l.inBlock && !l.allowsKey then l.notAllowed "sequence entries"
  else
    let l := if l.inBlock then l.openBlockHere .blockSequenceStart else l
    let l ← l.dropKey
    return { l with allowsKey := true }.pushMark .blockEntry 1

/-- The question mark of a key. -/
def pushKey (l : Lexer) : Except Fault Lexer := do
  if l.inBlock && !l.allowsKey then l.notAllowed "mapping keys"
  else
    let l := if l.inBlock then l.openBlockHere .blockMappingStart else l
    let l ← l.dropKey
    return { l with allowsKey := l.inBlock }.pushMark .key 1

/-- Puts tokens in front of the one that turned out to be a key. -/
def insertAt (number : Nat) (ts : List Token) (l : Lexer) : Lexer :=
  let before := number - l.given
  { l with queue := l.queue.take before ++ ts ++ l.queue.drop before }

/-- The colon of a value, which tells that a possible key was one. -/
def pushValue (l : Lexer) : Except Fault Lexer := do
  match l.keys.find? (·.1 == l.flowLevel) with
  | some (_, key) =>
    let l := { l with keys := l.keys.filter (·.1 != l.flowLevel), allowsKey := false }
    let (isNew, l) := if l.inBlock then l.openBlock key.mark.column else (false, l)
    let start := if isNew then [Token.at .blockMappingStart key.mark] else []
    return (l.insertAt key.number (start ++ [Token.at .key key.mark])).pushMark .value 1
  | none =>
    if l.inBlock && !l.allowsKey then l.notAllowed "mapping values"
    else
      let l := if l.inBlock then l.openBlockHere .blockMappingStart else l
      let l ← l.dropKey
      return { l with allowsKey := l.inBlock }.pushMark .value 1

/-- A block scalar. -/
def pushBlock (l : Lexer) : Except Fault Lexer := do
  let l ← l.dropKey
  let (t, rest) ← Token.readBlock l.indent l.cursor
  return { l.push t with cursor := rest, allowsKey := true }

/-- A plain scalar, behind which a key may start if a line ended there. -/
def pushPlain (l : Lexer) : Except Fault Lexer := do
  let l ← l.noteKey
  let (t, rest, hasBreak) := Token.readPlain (!l.inBlock) (l.indent + 1) l.cursor
  return { l.push t with cursor := rest, allowsKey := hasBreak }

/-! ### All tokens -/

/-- Goes on to the next token; in a block a key may start in each line. -/
def skipBetween : Nat → Lexer → Lexer
  | 0, l => l
  | fuel + 1, l =>
    let c := l.cursor.skipComment
    match c.takeBreak? with
    | none => { l with cursor := c }
    | some (_, c) => skipBetween fuel { l with cursor := c, allowsKey := l.inBlock || l.allowsKey }

/-- Goes on over the byte order mark at the beginning. -/
def skipOrderMark (l : Lexer) : Lexer :=
  if l.mark.index == 0 && l.cursor.peek.toNat == 0xfeff then { l with cursor := l.cursor.next }
  else l

/-- Finds one more token, with those that are only known from it. -/
def fetch (l : Lexer) : Except Fault Lexer := do
  let l := l.skipOrderMark.skipBetween (l.cursor.rest.length + 1)
  let l ← l.dropStaleKeys
  let l := l.unindent l.mark.column
  let c := l.cursor
  let x := c.peek
  let isLineStart := c.mark.column == 0
  let standsAlone := !l.inBlock || isBlankOrEnd (c.peekAt 1)
  if x == endChar then l.pushEnd
  else if x == '%' && isLineStart then l.pushDirective
  else if isLineStart && c.hasIndicator '-' then l.pushSeparator .documentStart
  else if isLineStart && c.hasIndicator '.' then l.pushSeparator .documentEnd
  else if x == '[' then l.pushOpening .flowSequenceStart
  else if x == '{' then l.pushOpening .flowMappingStart
  else if x == ']' then l.pushClosing .flowSequenceEnd
  else if x == '}' then l.pushClosing .flowMappingEnd
  else if x == ',' then l.pushFlowEntry
  else if x == '-' && isBlankOrEnd (c.peekAt 1) then l.pushBlockEntry
  else if x == '?' && standsAlone then l.pushKey
  else if x == ':' && standsAlone then l.pushValue
  else if x == '*' || x == '&' then l.pushKeyLike Token.readName
  else if x == '!' then l.pushKeyLike Token.readTag
  else if (x == '|' || x == '>') && l.inBlock then l.pushBlock
  else if x == '\'' || x == '"' then l.pushKeyLike Token.readQuoted
  else if Token.startsPlain (!l.inBlock) c then l.pushPlain
  else
    .error (.found .token (some ("while scanning for the next token", none))
      ("found character " ++ Cursor.shown x ++ " that cannot start any token") l.mark)

/-- Whether the next token has to be looked for, because there is none or because it may be a
key. -/
def needsMore (l : Lexer) : Except Fault (Bool × Lexer) := do
  if l.isDone then return (false, l)
  if l.queue.isEmpty then return (true, l)
  let l ← l.dropStaleKeys
  return (l.firstKey? == some l.given, l)

end Lexer

/-- What was read of a text: all of it, or what comes before the first fault. -/
structure Readout (α : Type) where
  items : List α
  fault : Option Fault := none

namespace Token

/-- Finds and gives out tokens; `found` holds those so far, last one first. -/
def scanFrom : Nat → List Token → Lexer → Readout Token
  | 0, found, _ => { items := found.reverse }
  | fuel + 1, found, l =>
    match l.needsMore with
    | .error fault => { items := found.reverse, fault }
    | .ok (true, l) => match l.fetch with
      | .error fault => { items := found.reverse, fault }
      | .ok l => scanFrom fuel found l
    | .ok (false, l) => match l.queue with
      | [] => { items := found.reverse }
      | t :: rest => scanFrom fuel (t :: found) { l with queue := rest, given := l.given + 1 }

/-- The tokens of a text. Each character begins at most four of them. -/
def scan (cs : List Char) : Readout Token :=
  scanFrom (8 * (cs.length + 4)) [] { cursor := ⟨cs, {}⟩, queue := [.at .streamStart {}] }

end Token

end SliceAgent.Yaml
