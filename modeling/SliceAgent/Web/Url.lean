import SliceAgent.Text.Lowercase
import SliceAgent.Text.Quoted
import SliceAgent.Web.Host

/-!
# URLs

A URL has a scheme and a place, which is a host and a port, perhaps behind the name of a user. It
is read in two ways. `Url.read` is strict about hosts and ports, and takes a text that begins with
no scheme and no slash for one of a place. `namedHost?` looks for a host and its port alone, and
minds only brackets and a few characters.
-/

namespace SliceAgent.Web

open Text (CodePoint CodeText)

/-! ### Parts of a URL -/

/-- Whether a text is the name of a scheme: a letter, and then letters, digits and some marks. -/
def isSchemeName (marks : List Char) : CodeText → Bool
  | [] => false
  | p :: r => p.satisfies Char.isAlpha &&
      r.all (CodePoint.satisfies fun c => c.isAlphanum || marks.contains c)

/-- Splits a text at the first colon, if the name of a scheme stands in front of it. -/
def takeScheme? (marks : List Char) (t : CodeText) : Option (CodeText × CodeText) :=
  match t.dropWhile (· != .char ':') with
  | [] => none
  | _ :: rest =>
    let name := t.takeWhile (· != .char ':')
    if isSchemeName marks name then some (name, rest) else none

/-- The place between two slashes in front and some characters, if the slashes are there. -/
def place? (ends : List Char) : CodeText → Option CodeText
  | .char '/' :: .char '/' :: r => some (r.takeWhile (!·.satisfies ends.contains))
  | _ => none

/-- What follows the last at sign of a place, or all of it. -/
def behindUser (place : CodeText) : CodeText :=
  (place.reverse.takeWhile (· != .char '@')).reverse

/-- A name in small letters. -/
def small (name : CodeText) : String :=
  (Text.lowercase name).shown

/-! ### Hosts and ports -/

/-- Why a text is no URL. -/
inductive UrlFault where
  /-- A place is no host with a port. -/
  | noHostPort (place : CodeText)
  /-- The port of a URL is too great. -/
  | hugePort (url : CodeText)
  /-- A part of the name of a host cannot be written in ASCII. -/
  | noLabel (label : CodeText)
  deriving DecidableEq, Repr

/-- The wording of a fault. -/
def UrlFault.message (f : UrlFault) : String :=
  "Failed to parse: " ++ match f with
    | .noHostPort place => s!"{Text.quotedPoints place} is not a valid host or port"
    | .hugePort url => url.shown
    | .noLabel label => s!"Name '{label.shown}' is not a valid IDNA label"

/-- The marks that no name of a host has. -/
def hostMarks : List Char := ['[', ']', '%', ':', '/', '?', '#']

/-- Whether a text can be the name of a host: no marks, but codes of characters behind percent
signs. -/
def isHostName : CodeText → Bool
  | [] => true
  | .char '%' :: a :: b :: r => isHexDigit a && isHexDigit b && isHostName r
  | p :: r => !p.satisfies hostMarks.contains && isHostName r

/-- Whether a text can name the part of a network that an address is for. -/
def isZone : CodeText → Bool
  | [] => true
  | .char '%' :: a :: b :: r => isHexDigit a && isHexDigit b && isZone r
  | p :: r => (p.satisfies fun c => c.isAlphanum || ['.', '_', '-', '~'].contains c) && isZone r

/-- Whether a text can be the address of a host, which stands in brackets. -/
def isHostAddress (t : CodeText) : Bool :=
  let (address, zone) := splitZone t
  isAddress6 isLooseAddress4 address && zone.all fun z => !z.isEmpty && isZone z

/-- Drops a line feed at the end. -/
def dropLineEnd (t : CodeText) : CodeText :=
  if t.getLast? = some (.char '\n') then t.dropLast else t

/-- The port behind a host, which a colon stands in front of, if there is one: up to five digits
behind zeros. -/
def portBehind? (t : CodeText) : Option (Option Nat) :=
  match dropLineEnd t with
  | [] => some none
  | .char ':' :: ds =>
    if ds.isEmpty then some none
    else
      let digits := ds.dropWhile (· == .char '0')
      if !ds.all (CodePoint.satisfies Char.isDigit) || 5 < digits.length then none
      else some (natOfDigits 10 (ds.filterMap fun p => p.char?.bind Text.asciiDigit?))
  | _ => none

/-- The host and the port of a place. -/
def hostPort? (t : CodeText) : Option (CodeText × Option Nat) :=
  match t with
  | .char '[' :: r =>
    let address := r.takeWhile (· != .char ']')
    match r.drop address.length with
    | close :: rest =>
      if isHostAddress address then
        (portBehind? rest).map (.char '[' :: (address ++ [close]), ·)
      else none
    | [] => none
  | _ =>
    let host := t.takeWhile (· != .char ':')
    if isHostName host then (portBehind? (t.drop host.length)).map (host, ·) else none

/-! ### Reading -/

/-- A URL, as far as connections are made by it. -/
structure Url where
  scheme : Option String
  host : Option CodeText
  port : Option Nat
  deriving DecidableEq, Repr

/-- The schemes of hosts with names that are looked up; a URL without a scheme has one too. -/
def isNamedScheme (scheme : Option String) : Bool :=
  scheme.all ["http", "https"].contains

/-- The greatest number of a port. -/
def portLimit : Nat := 65535

namespace Url

/-- A text with two slashes in front of it, unless a scheme or a slash is there. -/
def complete (t : CodeText) : CodeText :=
  if t.head? == some (.char '/') || (takeScheme? ['+', '-'] t).isSome then t
  else .char '/' :: .char '/' :: t

/-- Reads a URL. -/
def read (text : CodeText) : Except UrlFault Url := do
  let full := complete text
  let (scheme, rest) := match takeScheme? ['+', '-', '.'] full with
    | some (name, rest) => (some (small name), rest)
    | none => (none, full)
  match place? ['\\', '/', '?', '#'] rest with
  | none | some [] => return { scheme, host := none, port := none }
  | some place =>
    match hostPort? (behindUser place) with
    | none => throw (.noHostPort (behindUser place))
    | some (host, port) =>
      if portLimit < port.getD 0 then throw (.hugePort full)
      if isNamedScheme scheme && host.head? != some (.char '[') then
        if let some label := (Text.parts (.char '.') host).find? (!isLabel ·) then
          throw (.noLabel label)
      return { scheme, host := some host, port }

end Url

/-! ### Named hosts -/

/-- Why the host of a URL or its port is not found. -/
inductive PlaceFault where
  /-- Only one bracket of a pair is there. -/
  | brackets
  /-- An address of a kind to come has not its form. -/
  | futureAddress
  /-- Brackets are around an address of four numbers. -/
  | oldAddress
  | noAddress (text : CodeText)
  /-- A character stands for others among which is a mark of URLs. -/
  | hiddenMark (place : CodeText)
  /-- What stands for the port is no number. -/
  | noPort (text : CodeText)
  | hugePort
  | nullCharacter
  deriving DecidableEq, Repr

/-- The wording of a fault. -/
def PlaceFault.message : PlaceFault → String
  | .brackets => "Invalid IPv6 URL"
  | .futureAddress => "IPvFuture address is invalid"
  | .oldAddress => "An IPv4 address cannot be in brackets"
  | .noAddress text =>
    s!"{Text.quotedPoints text} does not appear to be an IPv4 or IPv6 address"
  | .hiddenMark place =>
    s!"netloc '{place.shown}' contains invalid characters under NFKC normalization"
  | .noPort text => s!"Port could not be cast to integer value as {Text.quotedPoints text}"
  | .hugePort => s!"Port out of range 0-{portLimit}"
  | .nullCharacter => "embedded null character"

/-- Whether a text is an address of a kind to come: its version and a point stand in front. -/
def isFutureAddress : CodeText → Bool
  | .char 'v' :: r =>
    let version := r.takeWhile isHexDigit
    let rest := r.drop version.length
    !version.isEmpty && rest.head? == some (.char '.') && 2 ≤ rest.length
  | _ => false

/-- Checks what stands in brackets. -/
def checkBracketed (t : CodeText) : Except PlaceFault Unit :=
  if t.head? = some (.char 'v') then if isFutureAddress t then .ok () else .error .futureAddress
  else if isAddress4 t then .error .oldAddress
  else
    let (address, zone) := splitZone t
    let isPlain (z : CodeText) : Bool := !z.isEmpty && !z.contains (.char '%')
    if isAddress6 isAddress4 address && zone.all isPlain then .ok () else .error (.noAddress t)

/-- The codes of characters that stand for others with a mark of URLs among them. -/
def hidingCodes : List Nat :=
  [0x2047, 0x2048, 0x2049, 0x2100, 0x2101, 0x2105, 0x2106, 0x2a74, 0xfe13, 0xfe16, 0xfe55, 0xfe56,
   0xfe5f, 0xfe6b, 0xff03, 0xff0f, 0xff1a, 0xff1f, 0xff20]

/-- What stands behind the first occurrence of a character. -/
def behind (mark : Char) (t : CodeText) : CodeText :=
  (t.dropWhile (· != .char mark)).drop 1

/-- What stands between two characters, or else up to the end. -/
def between (first last : Char) (t : CodeText) : CodeText :=
  (behind first t).takeWhile (· != .char last)

/-- The place of a URL; white space and control characters in front do not count, nor do tabs and
line ends anywhere. -/
def placeOf (url : CodeText) : CodeText :=
  let isLeading (c : Char) : Bool := decide (c.toNat ≤ 0x20)
  let t := (url.dropWhile (CodePoint.satisfies isLeading)).filter fun p =>
    !p.satisfies ['\t', '\n', '\r'].contains
  let rest := ((takeScheme? ['+', '-', '.'] t).map (·.2)).getD t
  (place? ['/', '?', '#'] rest).getD []

/-- The host that a URL names, with the text of its port, which need be no number. -/
structure NamedHost where
  name : CodeText
  port : CodeText
  deriving DecidableEq, Repr

namespace NamedHost

/-- The name in small letters, but for what stands behind a percent sign. -/
def smallName (h : NamedHost) : CodeText :=
  let (name, zone) := splitZone h.name
  Text.lowercase name ++ (zone.map (.char '%' :: ·)).getD []

/-- The number of the port, if there is one. -/
def portNumber? (h : NamedHost) : Except PlaceFault (Option Nat) :=
  if h.port.isEmpty then .ok none
  else if !h.port.all (CodePoint.satisfies Char.isDigit) then .error (.noPort h.port)
  else
    let n := natOfDigits 10 (h.port.filterMap fun p => p.char?.bind Text.asciiDigit?)
    if portLimit < n then .error .hugePort else .ok (some n)

end NamedHost

/-- The host that a URL names; none if it names none. -/
def namedHost? (url : CodeText) : Except PlaceFault (Option NamedHost) := do
  let place := placeOf url
  let isOpen := place.contains (.char '[')
  if isOpen != place.contains (.char ']') then throw .brackets
  if isOpen then checkBracketed (between '[' ']' place)
  if place.any fun p => hidingCodes.contains p.code then throw (.hiddenMark place)
  let hostPort := behindUser place
  let host : NamedHost := if hostPort.contains (.char '[') then
      ⟨between '[' ']' hostPort, behind ':' (behind ']' (behind '[' hostPort))⟩
    else ⟨hostPort.takeWhile (· != .char ':'), behind ':' hostPort⟩
  return if host.name.isEmpty then none else some host

end SliceAgent.Web
