import SliceAgent.Yaml.Token.Lexer

/-!
# YAML events

The tokens of a text spell events: documents, scalars, aliases, and the beginnings and ends of
collections. Values that are left out are empty scalars, and a pair within a list in brackets is a
mapping of its own.

`Grammar` is what may come next; the grammars that are to be gone on with afterwards are kept on a
stack. `Event.ofTokens` gives the events up to the end of the text, or up to the first fault.
-/

namespace SliceAgent.Yaml

/-- What a node says before its content: its anchor, and its tag unless that is to be found out. -/
structure Properties where
  anchor : Option String := none
  tag : Option String := none
  deriving DecidableEq, Repr

/-- The kinds of events. -/
inductive EventKind where
  | streamEnd
  | documentStart
  | documentEnd
  | alias (name : String)
  /-- A scalar; one without a tag has that which its text looks like if it `resolves`. -/
  | scalar (properties : Properties) (resolves : Bool) (text : Text.CodeText)
  | sequenceStart (properties : Properties)
  | sequenceEnd
  | mappingStart (properties : Properties)
  | mappingEnd
  deriving DecidableEq, Repr

/-- An event with the place where it begins. -/
structure Event where
  kind : EventKind
  start : Mark
  deriving DecidableEq, Repr

/-- What may come next. -/
inductive Grammar where
  | stream
  | document
  | documentContent
  | documentEnd
  | blockNode
  | blockEntry
  | indentlessEntry
  | blockKey
  | blockValue
  | flowEntry (isFirst : Bool)
  | flowPairKey
  | flowPairValue
  | flowPairEnd
  | flowKey (isFirst : Bool)
  | flowValue
  | flowEmptyValue
  deriving DecidableEq, Repr

/-- The tokens that are left and what they have to spell. -/
structure Parse where
  tokens : List Token
  fault : Option Fault
  grammar : Grammar := .stream
  later : List Grammar := []
  /-- Where the collections that are open begin. -/
  marks : List Mark := []
  /-- What the handles of tags stand for. -/
  handles : List (String × String) := []

/-- A step of reading tokens. -/
abbrev Parser := StateT Parse (Except Fault)

namespace Parser

/-! ### Tokens -/

/-- The next token; the fault of the text comes after its last one. -/
def peek : Parser Token := do
  let p ← get
  match p.tokens, p.fault with
  | t :: _, _ => return t
  | [], some fault => throw fault
  | [], none => return .at .streamEnd {}

/-- The next token, which is taken. -/
def take : Parser Token := do
  let t ← peek
  modify fun p => { p with tokens := p.tokens.tail }
  return t

/-- Whether the next token is of a kind. -/
def sees (is : TokenKind → Bool) : Parser Bool := do
  return is (← peek).kind

/-- Goes on with a grammar. -/
def goOn (g : Grammar) : Parser Unit :=
  modify fun p => { p with grammar := g }

/-- Keeps a grammar for later. -/
def later (g : Grammar) : Parser Unit :=
  modify fun p => { p with later := g :: p.later }

/-- Goes on with what was kept for later. -/
def goBack : Parser Unit :=
  modify fun p => { p with grammar := p.later.headD .document, later := p.later.tail }

/-- Takes the token that opens a collection. -/
def openCollection : Parser Unit := do
  let t ← take
  modify fun p => { p with marks := t.start :: p.marks }

/-- Takes the token that closes a collection. -/
def closeCollection (kind : EventKind) : Parser Event := do
  let t ← take
  modify fun p => { p with marks := p.marks.tail }
  goBack
  return ⟨kind, t.start⟩

/-- The fault of the next token. -/
def unexpected {α : Type} (problem : Token → String) : Parser α := do
  let t ← peek
  throw (.plain .event (problem t) t.start)

/-- The fault of the next token within the collection that is open. -/
def unexpectedIn {α : Type} (what : String) (problem : Token → String) : Parser α := do
  let t ← peek
  let p ← get
  throw (.within .event ("while parsing a " ++ what) (p.marks.headD {}) (problem t) t.start)

/-- An empty scalar at a place. -/
def emptyScalar (m : Mark) : Event :=
  ⟨.scalar {} true [], m⟩

/-! ### Nodes -/

/-- The handles that every document has. -/
def defaultHandles : List (String × String) :=
  [("!", "!"), ("!!", "tag:yaml.org,2002:")]

/-- What stands before the content of a node, and the places where that and the tag begin. -/
structure Head where
  anchor : Option String := none
  tag : Option (Option String × String) := none
  start : Option Mark := none
  tagMark : Mark := {}

/-- Takes an anchor, if one comes next. -/
def takeAnchor (h : Head) : Parser Head := do
  match (← peek).kind with
  | .anchor name =>
    let t ← take
    return { h with anchor := some name, start := h.start.getD t.start }
  | _ => return h

/-- Takes a tag, if one comes next. -/
def takeTag (h : Head) : Parser Head := do
  match (← peek).kind with
  | .tag handle suffix =>
    let t ← take
    let start := h.start.getD t.start
    return { h with tag := some (handle, suffix), start, tagMark := t.start }
  | _ => return h

/-- Takes an anchor and a tag in any order. -/
def takeHead : Parser Head := do
  let h ← takeAnchor {}
  if h.anchor.isSome then takeTag h
  else
    let h ← takeTag h
    if h.tag.isSome then takeAnchor h else return h

/-- The tag of a node with its handle written out. -/
def fullTag (h : Head) : Parser (Option String) := do
  match h.tag with
  | none => return none
  | some (none, suffix) => return some suffix
  | some (some handle, suffix) =>
    match (← get).handles.lookup handle with
    | some stem => return some (stem ++ suffix)
    | none =>
      throw (.within .event "while parsing a node" (h.start.getD {})
        ("found undefined tag handle " ++ Text.quoted handle) h.tagMark)

/-- Goes on with a collection of a node. -/
def startCollection (event : EventKind) (g : Grammar) (start : Mark) : Parser Event := do
  goOn g
  return ⟨event, start⟩

/-- Reads a node; in a block it may be a collection told by indentation, and the value of a key
may be a list that is not indented further. -/
def node (inBlock allowsIndentless : Bool) : Parser Event := do
  match (← peek).kind with
  | .alias name =>
    let t ← take
    goBack
    return ⟨.alias name, t.start⟩
  | _ =>
    let h ← takeHead
    let tag ← fullTag h
    let t ← peek
    let start := h.start.getD t.start
    let isOpen := tag.isNone || tag == some "!"
    let properties : Properties := ⟨h.anchor, if isOpen then none else tag⟩
    match t.kind with
    | .scalar text isPlain =>
      let _ ← take
      goBack
      return ⟨.scalar properties ((isPlain && tag.isNone) || tag == some "!") text, start⟩
    | .flowSequenceStart =>
      openCollection
      startCollection (.sequenceStart properties) (.flowEntry true) start
    | .flowMappingStart =>
      openCollection
      startCollection (.mappingStart properties) (.flowKey true) start
    | kind =>
      if allowsIndentless && kind == .blockEntry then
        startCollection (.sequenceStart properties) .indentlessEntry start
      else if inBlock && kind == .blockSequenceStart then
        openCollection
        startCollection (.sequenceStart properties) .blockEntry start
      else if inBlock && kind == .blockMappingStart then
        openCollection
        startCollection (.mappingStart properties) .blockKey start
      else if h.anchor.isSome || tag.isSome then
        goBack
        return ⟨.scalar properties isOpen [], start⟩
      else
        let context := if inBlock then "while parsing a block node" else "while parsing a flow node"
        throw (.within .event context start ("expected the node content, but found " ++ t.shown)
          t.start)

/-- Reads the node behind a token, or an empty scalar if the next token says that there is none.
In either case the reading goes on with a grammar afterwards. -/
def nodeOrEmpty (isAbsent : TokenKind → Bool) (g : Grammar) (read : Parser Event) (m : Mark) :
    Parser Event := do
  if ← sees isAbsent then
    goOn g
    return emptyScalar m
  else
    later g
    read

/-! ### Documents -/

/-- Whether a token begins or ends a document. -/
def isDocumentMark : TokenKind → Bool
  | .directive _ | .documentStart | .documentEnd | .streamEnd => true
  | _ => false

/-- Reads directives one after another; the handles they define come before those that every
document has. -/
def directives : Nat → Bool → List (String × String) → Parser Unit
  | 0, _, _ => return
  | fuel + 1, hasVersion, handles => do
    match (← peek).kind with
    | .directive d =>
      let t ← take
      match d with
      | .version major _ =>
        if hasVersion then
          throw (.plain .event "found duplicate YAML directive" t.start)
        if major != 1 then
          throw (.plain .event "found incompatible YAML document (version 1.* is required)" t.start)
        directives fuel true handles
      | .tagHandle handle stem =>
        if (handles.lookup handle).isSome then
          throw (.plain .event ("duplicate tag handle " ++ Text.quoted handle) t.start)
        directives fuel hasVersion (handles ++ [(handle, stem)])
      | .other => directives fuel hasVersion handles
    | _ => modify fun p => { p with handles := handles ++ defaultHandles }

/-- Takes the marks that end documents. -/
def skipDocumentEnds : Nat → Parser Unit
  | 0 => return
  | fuel + 1 => do
    if ← sees (· == .documentEnd) then
      let _ ← take
      skipDocumentEnds fuel

/-- Reads the beginning of a document, or the end of the text. -/
def document : Parser Event := do
  let fuel := (← get).tokens.length + 1
  skipDocumentEnds fuel
  if ← sees (· == .streamEnd) then
    let t ← take
    return ⟨.streamEnd, t.start⟩
  let start := (← peek).start
  directives fuel false []
  if !(← sees (· == .documentStart)) then
    unexpected fun t => "expected '<document start>', but found " ++ t.shown
  let _ ← take
  later .documentEnd
  goOn .documentContent
  return ⟨.documentStart, start⟩

/-- Reads the beginning of the text, whose first document needs no mark. -/
def stream : Parser Event := do
  let _ ← take
  if ← sees fun k => isDocumentMark k && k != .documentEnd then document
  else
    modify fun p => { p with handles := defaultHandles }
    later .documentEnd
    goOn .blockNode
    return ⟨.documentStart, (← peek).start⟩

/-! ### Events -/

/-- Whether the content of a pair in a list in brackets is left out before a token. -/
def endsFlowItem (k : TokenKind) : Bool :=
  k == .flowEntry || k == .flowSequenceEnd

/-- Whether the content of a pair in braces is left out before a token. -/
def endsFlowPair (k : TokenKind) : Bool :=
  k == .flowEntry || k == .flowMappingEnd

/-- Whether the content of a key or a value in a block is left out before a token. -/
def endsBlockPair (k : TokenKind) : Bool :=
  k == .key || k == .value || k == .blockEnd

/-- Reads the value behind a colon, or an empty one if there is no colon. -/
def valueOrEmpty (isAbsent : TokenKind → Bool) (g : Grammar) (read : Parser Event) :
    Parser Event := do
  if ← sees (· == .value) then
    let t ← take
    nodeOrEmpty isAbsent g read t.stop
  else
    goOn g
    return emptyScalar (← peek).start

/-- Takes the comma between the parts of a collection in brackets. -/
def separator (isFirst : Bool) (what closing : String) : Parser Unit := do
  if !isFirst then
    if ← sees (· == .flowEntry) then
      let _ ← take
    else
      unexpectedIn what fun t => s!"expected ',' or '{closing}', but got " ++ t.shown

/-- Reads an entry of a list in brackets, or its end. -/
def flowEntry (isFirst : Bool) : Parser Event := do
  if ← sees (· == .flowSequenceEnd) then closeCollection .sequenceEnd
  else
    separator isFirst "flow sequence" "]"
    let t ← peek
    if t.kind == .key then startCollection (.mappingStart {}) .flowPairKey t.start
    else if t.kind == .flowSequenceEnd then closeCollection .sequenceEnd
    else
      later (.flowEntry false)
      node false false

/-- Reads a key in braces, or their end. -/
def flowKey (isFirst : Bool) : Parser Event := do
  if ← sees (· == .flowMappingEnd) then closeCollection .mappingEnd
  else
    separator isFirst "flow mapping" "\x7d"
    let t ← peek
    if t.kind == .key then
      let _ ← take
      nodeOrEmpty (fun k => k == .value || endsFlowPair k) .flowValue (node false false) t.stop
    else if t.kind == .flowMappingEnd then closeCollection .mappingEnd
    else
      later .flowEmptyValue
      node false false

/-- Reads the next event. -/
def event : Parser Event := do
  match (← get).grammar with
  | .stream => stream
  | .document => document
  | .documentContent =>
    if ← sees isDocumentMark then
      goBack
      return emptyScalar (← peek).start
    else node true false
  | .documentEnd =>
    let t ← peek
    if t.kind == .documentEnd then
      let _ ← take
    goOn .document
    return ⟨.documentEnd, t.start⟩
  | .blockNode => node true false
  | .blockEntry =>
    let t ← peek
    if t.kind == .blockEntry then
      let _ ← take
      nodeOrEmpty (fun k => k == .blockEntry || k == .blockEnd) .blockEntry (node true false) t.stop
    else if t.kind == .blockEnd then closeCollection .sequenceEnd
    else unexpectedIn "block collection" fun t => "expected <block end>, but found " ++ t.shown
  | .indentlessEntry =>
    let t ← peek
    if t.kind == .blockEntry then
      let _ ← take
      nodeOrEmpty (fun k => k == .blockEntry || endsBlockPair k) .indentlessEntry (node true false)
        t.stop
    else
      goBack
      return ⟨.sequenceEnd, t.start⟩
  | .blockKey =>
    let t ← peek
    if t.kind == .key then
      let _ ← take
      nodeOrEmpty endsBlockPair .blockValue (node true true) t.stop
    else if t.kind == .blockEnd then closeCollection .mappingEnd
    else unexpectedIn "block mapping" fun t => "expected <block end>, but found " ++ t.shown
  | .blockValue => valueOrEmpty endsBlockPair .blockKey (node true true)
  | .flowEntry isFirst => flowEntry isFirst
  | .flowPairKey =>
    let t ← take
    nodeOrEmpty (fun k => k == .value || endsFlowItem k) .flowPairValue (node false false) t.stop
  | .flowPairValue => valueOrEmpty endsFlowItem .flowPairEnd (node false false)
  | .flowPairEnd =>
    goOn (.flowEntry false)
    return ⟨.mappingEnd, (← peek).start⟩
  | .flowKey isFirst => flowKey isFirst
  | .flowValue => valueOrEmpty endsFlowPair (.flowKey false) (node false false)
  | .flowEmptyValue =>
    goOn (.flowKey false)
    return emptyScalar (← peek).start

end Parser

namespace Event

/-- Reads events one after another; `found` holds those so far, last one first. -/
def readFrom : Nat → List Event → Parse → Readout Event
  | 0, found, _ => { items := found.reverse }
  | fuel + 1, found, p =>
    match Parser.event.run p with
    | .error fault => { items := found.reverse, fault }
    | .ok (e, p) =>
      if e.kind == .streamEnd then { items := (e :: found).reverse }
      else readFrom fuel (e :: found) p

/-- The events that tokens spell. A token comes with at most three events. -/
def ofTokens (ts : Readout Token) : Readout Event :=
  readFrom (4 * ts.items.length + 8) [] { tokens := ts.items, fault := ts.fault }

end Event

end SliceAgent.Yaml
