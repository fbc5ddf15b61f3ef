import SliceAgent.Yaml.Token

/-!
# Scalars

A plain scalar has no quotes. It ends at a colon with a blank behind it, at a comment, within
brackets at any mark of theirs, and in a block where a line is indented too little. The ends of its
lines are folded: a single one becomes a space, and of several the first is dropped.

Within single quotes only the quote itself is escaped, by doubling it. Within double quotes a
backslash escapes characters by letters and by their codes, and the end of a line. The ends of lines
are folded as in plain scalars, and the blanks around them are dropped.

A block scalar is the text of indented lines, behind a header that says how it is read. A literal
one keeps its lines; in a folded one a line end between two lines that begin with no blank is
folded. The ends of lines behind the last one are clipped to one, stripped or kept. The indentation
is that of the first line with characters, unless the header tells it.
-/

namespace SliceAgent.Yaml.Token

/-! ### Plain scalars -/

/-- Whether a plain scalar may start at a place. Within brackets a question mark and a colon may
not. -/
def startsPlain (inFlow : Bool) (c : Cursor) : Bool :=
  let x := c.peek
  (!isBlankOrEnd x && !"-?:,[]\x7b\x7d#&*!|>'\"%@\x60".contains x) ||
    (!isBlankOrEnd (c.peekAt 1) && (x == '-' || (!inFlow && (x == '?' || x == ':'))))

/-- Whether a plain word ends at a character, with the one behind it. -/
def endsWord (inFlow : Bool) (x next : Char) : Bool :=
  isBlankOrEnd x ||
    (x == ':' && (isBlankOrEnd next || (inFlow && ",[]\x7b\x7d".contains next))) ||
    (inFlow && ",?[]\x7b\x7d".contains x)

/-- The length of the plain word that characters begin with. -/
def wordLength (inFlow : Bool) : List Char → Nat
  | [] => 0
  | x :: r => if endsWord inFlow x (r.headD endChar) then 0 else wordLength inFlow r + 1

/-- Characters that were folded, the text behind them, and whether a line ended among them. A line
that separates documents folds to nothing. -/
structure Folded where
  chars : List Char
  rest : Cursor
  hasBreak : Bool := false

/-- The ends of empty lines, and the text behind them and the spaces among them; no ends if a
separator comes first. -/
def emptyLines : Nat → Cursor → Option (List Char) × Cursor
  | 0, c => (some [], c)
  | fuel + 1, c =>
    if c.peek == ' ' then emptyLines fuel c.next
    else match c.takeBreak? with
      | none => (some [], c)
      | some (b, c) =>
        if c.isSeparator then (none, c)
        else
          let (more, rest) := emptyLines fuel c
          (more.map (b :: ·), rest)

/-- The end of a line and those of the empty lines after it, as they count in a text. -/
def foldBreaks (first : Char) (others : List Char) : List Char :=
  if first != '\n' then first :: others
  else if others.isEmpty then [' ']
  else others

/-- Folds the spaces and the ends of lines between two plain words. -/
def foldSpaces (c : Cursor) : Folded :=
  let (spaces, c) := c.takeWhile (· == ' ')
  match c.takeBreak? with
  | none => { chars := spaces, rest := c }
  | some (b, c) =>
    if c.isSeparator then { chars := [], rest := c, hasBreak := true }
    else
      let (others, rest) := emptyLines (c.rest.length + 1) c
      { chars := (others.map (foldBreaks b)).getD [], rest, hasBreak := true }

/-- A plain scalar that is being read: its characters, the place behind them, the text behind the
spaces after them, and whether a line ended among those. -/
structure PlainText where
  chars : List Char
  stop : Mark
  rest : Cursor
  hasBreak : Bool := false

/-- Reads words of a plain scalar; `spaces` are those in front of the next one. -/
def readWords (inFlow : Bool) (indent : Int) :
    Nat → PlainText → List Char → PlainText
  | 0, p, _ => p
  | fuel + 1, p, spaces =>
    let length := wordLength inFlow p.rest.rest
    if p.rest.peek == '#' || length == 0 then p
    else
      let after := p.rest.skip length
      let folded := foldSpaces after
      let p : PlainText :=
        { chars := p.chars ++ spaces ++ p.rest.rest.take length
          stop := after.mark, rest := folded.rest, hasBreak := folded.hasBreak }
      if folded.chars.isEmpty || folded.rest.peek == '#' ||
          (!inFlow && decide ((folded.rest.mark.column : Int) < indent)) then p
      else readWords inFlow indent fuel p folded.chars

/-- Reads a plain scalar; `indent` is the least one that its lines need in a block. The flag tells
whether a line ended behind it. -/
def readPlain (inFlow : Bool) (indent : Int) (c : Cursor) : Token × Cursor × Bool :=
  let p := readWords inFlow indent (c.rest.length + 1) ⟨[], c.mark, c, false⟩ []
  (⟨.scalar (.ofChars p.chars) true, c.mark, p.stop⟩, p.rest, p.hasBreak)

/-! ### Quoted scalars -/

/-- The character that a backslash and a letter stand for. -/
def escaped? : Char → Option Char
  | '0' => some (Char.ofNat 0)
  | 'a' => some (Char.ofNat 7)
  | 'b' => some (Char.ofNat 8)
  | 't' | '\t' => some '\t'
  | 'n' => some '\n'
  | 'v' => some (Char.ofNat 11)
  | 'f' => some (Char.ofNat 12)
  | 'r' => some '\r'
  | 'e' => some (Char.ofNat 27)
  | ' ' => some ' '
  | '"' => some '"'
  | '\\' => some '\\'
  | '/' => some '/'
  | 'N' => some (Char.ofNat 0x85)
  | '_' => some (Char.ofNat 0xa0)
  | 'L' => some (Char.ofNat 0x2028)
  | 'P' => some (Char.ofNat 0x2029)
  | _ => none

/-- The number of digits of the code behind a letter. -/
def codeLength? : Char → Option Nat
  | 'x' => some 2
  | 'u' => some 4
  | 'U' => some 8
  | _ => none

/-- The code point of a code. -/
def pointOfCode (code : Nat) : Except Fault Text.CodePoint :=
  if code < 0x110000 then .ok (.ofCode code)
  else .error (.scalar (.noCharacter (decide (0x7fffffff < code))))

/-- What is being read between double quotes. -/
def doubleContext : String := "while scanning a double-quoted scalar"

/-- What is being read between quotes. -/
def quotedContext : String := "while scanning a quoted scalar"

/-- Reads the digits of a code. -/
def readCode (start : Mark) (length : Nat) (c : Cursor) : Except Fault (Text.CodePoint × Cursor) :=
  let digits := (List.range length).map c.peekAt
  match digits.find? fun d => (Text.hexValue? d).isNone with
  | some bad =>
    c.fault doubleContext start
      (s!"expected escape sequence of {length} hexadecimal numbers, but found " ++ Cursor.shown bad)
  | none =>
    (pointOfCode (natOfDigits 16 (digits.filterMap Text.hexValue?))).map (·, c.skip length)

/-- Reads the ends of empty lines and the blanks around them. -/
def readEmptyLines (start : Mark) : Nat → Cursor → Except Fault (List Char × Cursor)
  | 0, c => .ok ([], c)
  | fuel + 1, c =>
    if c.isSeparator then c.fault quotedContext start "found unexpected document separator"
    else
      let c := c.dropWhile fun x => x == ' ' || x == '\t'
      match c.takeBreak? with
      | none => .ok ([], c)
      | some (b, c) => (readEmptyLines start fuel c).map fun (more, rest) => (b :: more, rest)

/-- Reads what a backslash escapes. -/
def readEscape (start : Mark) (c : Cursor) : Except Fault (Text.CodeText × Cursor) :=
  match escaped? c.peek, codeLength? c.peek with
  | some x, _ => .ok ([.char x], c.next)
  | none, some length => (readCode start length c.next).map fun (x, rest) => ([x], rest)
  | none, none =>
    match c.takeBreak? with
    | some (_, rest) => do
      let (breaks, rest) ← readEmptyLines start (c.rest.length + 1) rest
      return (.ofChars breaks, rest)
    | none => c.fault doubleContext start ("found unknown escape character " ++ c.peekShown)

/-- Reads blanks and the ends of lines between quotes. -/
def readBlanks (start : Mark) (c : Cursor) : Except Fault (List Char × Cursor) := do
  let (blanks, c) := c.takeWhile fun x => x == ' ' || x == '\t'
  if c.peek == endChar then c.fault quotedContext start "found unexpected end of stream"
  else match c.takeBreak? with
    | none => return (blanks, c)
    | some (b, c) =>
      let (others, rest) ← readEmptyLines start (c.rest.length + 1) c
      return (foldBreaks b others, rest)

/-- Reads the code points up to the closing quote; `found` holds those so far, last one first. -/
def readQuotedFrom (isDouble : Bool) (start : Mark) :
    Nat → Text.CodeText → Cursor → Except Fault (Text.CodeText × Cursor)
  | 0, _, c => c.fault quotedContext start "found unexpected end of stream"
  | fuel + 1, found, c => do
    let x := c.peek
    if isBlankOrEnd x then
      let (chars, rest) ← readBlanks start c
      readQuotedFrom isDouble start fuel (.ofChars chars.reverse ++ found) rest
    else if isDouble && x == '\\' then
      let (points, rest) ← readEscape start c.next
      readQuotedFrom isDouble start fuel (points.reverse ++ found) rest
    else if !isDouble && x == '\'' && c.peekAt 1 == '\'' then
      readQuotedFrom isDouble start fuel (.char x :: found) (c.skip 2)
    else if x == (if isDouble then '"' else '\'') then return (found.reverse, c.next)
    else readQuotedFrom isDouble start fuel (.char x :: found) c.next

/-- Reads a quoted scalar. -/
def readQuoted (c : Cursor) : Except Fault (Token × Cursor) := do
  let (points, rest) ← readQuotedFrom (c.peek == '"') c.mark (c.rest.length + 1) [] c.next
  return (⟨.scalar points false, c.mark, rest.mark⟩, rest)

/-! ### Block scalars -/

/-- What becomes of the ends of lines behind a text. -/
inductive Chomping where
  | clip
  | strip
  | keep
  deriving DecidableEq, Repr

/-- What is being read. -/
def blockContext : String := "while scanning a block scalar"

/-- Reads the mark of a chomping, if there is one. -/
def readChomping? (c : Cursor) : Option (Chomping × Cursor) :=
  match c.peek with
  | '+' => some (.keep, c.next)
  | '-' => some (.strip, c.next)
  | _ => none

/-- Reads the digit of an indentation, if there is one. -/
def readIncrement? (start : Mark) (c : Cursor) : Except Fault (Option Nat × Cursor) :=
  match Text.asciiDigit? c.peek with
  | none => .ok (none, c)
  | some 0 =>
    c.fault blockContext start "expected indentation indicator in the range 1-9, but found 0"
  | some n => .ok (some n, c.next)

/-- Reads a header: a chomping and an indentation in any order, up to the end of the line. -/
def readHeader (start : Mark) (c : Cursor) : Except Fault (Chomping × Option Nat × Cursor) := do
  let (chomping, increment, c) ← match readChomping? c with
    | some (chomping, c) => do
      let (increment, c) ← readIncrement? start c
      pure (chomping, increment, c)
    | none => do
      let (increment, c) ← readIncrement? start c
      match increment.bind fun _ => readChomping? c with
      | some (chomping, c) => pure (chomping, increment, c)
      | none => pure (.clip, increment, c)
  if !isSpaceOrEnd c.peek then
    c.fault blockContext start
      ("expected chomping or indentation indicators, but found " ++ c.peekShown)
  else
    let line := c.skipComment
    if !isLineEnd line.peek then
      line.fault blockContext start
        ("expected a comment or a line break, but found " ++ line.peekShown)
    else return (chomping, increment, line.skipBreak)

/-- Goes on to the first line with characters: the ends of the lines before it, and the greatest
indentation among those and its own. -/
def findIndent : Nat → Nat → Cursor → List Char × Nat × Cursor
  | 0, widest, c => ([], widest, c)
  | fuel + 1, widest, c =>
    match c.takeBreak? with
    | some (b, c) =>
      let (more, widest, rest) := findIndent fuel widest c
      (b :: more, widest, rest)
    | none =>
      if c.peek == ' ' then findIndent fuel (max widest c.next.mark.column) c.next
      else ([], widest, c)

/-- Goes on over the indentation of a line, at most up to a column. -/
def skipIndent (indent : Nat) (c : Cursor) : Cursor :=
  c.skip (min (indent - c.mark.column) (c.rest.takeWhile (· == ' ')).length)

/-- Goes on to the next line with characters beyond an indentation: the ends of the lines before
it. -/
def skipLines (indent : Nat) : Nat → Cursor → List Char × Cursor
  | 0, c => ([], c)
  | fuel + 1, c =>
    let c := skipIndent indent c
    match c.takeBreak? with
    | none => ([], c)
    | some (b, c) =>
      let (more, rest) := skipLines indent fuel c
      (b :: more, rest)

/-- Whether a line of a block begins at a place. -/
def isAtLine (indent : Nat) (c : Cursor) : Bool :=
  c.mark.column == indent && c.peek != endChar

/-- The text of a block so far: its characters, last one first, the end of its last line, the ends
of the lines behind that, and the text behind those. -/
structure BlockText where
  found : List Char := []
  lineEnd : List Char := []
  breaks : List Char
  rest : Cursor

/-- Reads the lines of a block. -/
def readLines (isFolded : Bool) (indent : Nat) : Nat → BlockText → BlockText
  | 0, b => b
  | fuel + 1, b =>
    if !isAtLine indent b.rest then b
    else
      let isBlank (c : Cursor) : Bool := c.peek == ' ' || c.peek == '\t'
      let (line, after) := b.rest.takeWhile (!isLineEnd ·)
      let (lineEnd, next) := match after.takeBreak? with
        | some (x, c) => ([x], c)
        | none => ([], after)
      let (breaks, rest) := skipLines indent (next.rest.length + 1) next
      let found := line.reverse ++ (b.breaks.reverse ++ b.found)
      if !isAtLine indent rest then ⟨found, lineEnd, breaks, rest⟩
      else
        let joint := if isFolded && lineEnd == ['\n'] && !isBlank b.rest && !isBlank rest then
            if breaks.isEmpty then [' '] else []
          else lineEnd
        readLines isFolded indent fuel ⟨joint ++ found, lineEnd, breaks, rest⟩

/-- Reads a block scalar within a block of an indentation. -/
def readBlock (outer : Int) (c : Cursor) : Except Fault (Token × Cursor) := do
  let start := c.mark
  let isFolded := c.peek == '>'
  let (chomping, increment, c) ← readHeader start c.next
  let least := max (outer + 1).toNat 1
  let fuel := c.rest.length + 1
  let (indent, breaks, rest) := match increment with
    | none =>
      let (breaks, widest, rest) := findIndent fuel 0 c
      (max least widest, breaks, rest)
    | some n =>
      let indent := least + n - 1
      let (breaks, rest) := skipLines indent fuel c
      (indent, breaks, rest)
  let b := readLines isFolded indent fuel { breaks, rest }
  let tail := match chomping with
    | .strip => []
    | .clip => b.lineEnd
    | .keep => b.lineEnd ++ b.breaks
  let text := String.ofList (b.found.reverse ++ tail)
  return (⟨.scalar (.ofString text) false, start, b.rest.mark⟩, b.rest)

end SliceAgent.Yaml.Token
