import SliceAgent.Text.Basic
import SliceAgent.Text.CodePoint
import SliceAgent.Text.Quoted

/-!
# Texts and octets

`Utf8.decode` reads a list of octets as characters. It runs a machine that either stands between
two characters or waits for the continuation octets of one (`Pending`), and it refuses at the
first octet that rules the text out. A refusal (`Fault`) tells where the offending character
starts and how many of its octets were sound.

`Base64.decode` reads a text in base 64 as octets. Characters that are no digits of the base are
passed over, and so is padding in a place where it cannot end the text; padding that completes a
group of four ends it, whatever follows. What is left of a group at the end is a fault. The scan
keeps the group that is open as `Open`: how many digits it has, and the bits that no octet has taken
yet.

Some encodings hold only the characters below a limit, and none holds half of a pair of surrogates
but that for names of files, in which some halves stand for octets. `Encoding.fault?` tells which
code points of a text are the first that an encoding cannot hold: a run of them is told by its
positions.
-/

namespace SliceAgent.Text.Utf8

/-! ### UTF-8 -/

/-- Why octets are not UTF-8. -/
inductive Reason where
  /-- The octet starts no character. -/
  | invalidStart
  /-- An octet stands where a character already begun cannot go on with it. -/
  | invalidContinuation
  /-- The octets end inside a character. -/
  | unexpectedEnd
  deriving DecidableEq, Repr

/-- The wording of a reason. -/
def Reason.text : Reason → String
  | .invalidStart => "invalid start byte"
  | .invalidContinuation => "invalid continuation byte"
  | .unexpectedEnd => "unexpected end of data"

/-- A refusal: the position and value of the first octet of the character that is not one, and
how many octets of it belong to the report. -/
structure Fault where
  position : Nat
  first : UInt8
  count : Nat
  reason : Reason
  deriving DecidableEq, Repr

/-- One octet is shown with its value, several with their range of positions. -/
def Fault.message (f : Fault) : String :=
  let place :=
    if f.count = 1 then s!"byte 0x" ++ hexDigits 2 f.first.toNat ++ s!" in position {f.position}"
    else s!"bytes in position {f.position}-{f.position + f.count - 1}"
  s!"'utf-8' codec can't decode {place}: " ++ f.reason.text

/-- A character that has begun. The next octet has to lie between `low` and `high`; `owed` counts
the octets that follow it. -/
structure Pending where
  position : Nat
  first : UInt8
  seen : Nat
  value : Nat
  low : UInt8
  high : UInt8
  owed : Nat

/-- The refusal of a character that has begun. -/
def Pending.fault (p : Pending) (reason : Reason) : Fault :=
  ⟨p.position, p.first, p.seen, reason⟩

/-- The character that a first octet begins; `none` if it begins none. The narrower bounds of the
second octet leave out overlong forms, surrogates and code points above `U+10FFFF`. -/
def begin? (position : Nat) (b : UInt8) : Option Pending :=
  let start (value : Nat) (low high : UInt8) (owed : Nat) : Option Pending :=
    some ⟨position, b, 1, value, low, high, owed⟩
  if 0xc2 ≤ b ∧ b ≤ 0xdf then start (b.toNat - 0xc0) 0x80 0xbf 0
  else if b = 0xe0 then start 0 0xa0 0xbf 1
  else if b = 0xed then start 0xd 0x80 0x9f 1
  else if 0xe1 ≤ b ∧ b ≤ 0xef then start (b.toNat - 0xe0) 0x80 0xbf 1
  else if b = 0xf0 then start 0 0x90 0xbf 2
  else if 0xf1 ≤ b ∧ b ≤ 0xf3 then start (b.toNat - 0xf0) 0x80 0xbf 2
  else if b = 0xf4 then start 4 0x80 0x8f 2
  else none

/-- Decodes the octets from a position on. -/
def decodeFrom (position : Nat) : Option Pending → List UInt8 → Except Fault (List Char)
  | none, [] => .ok []
  | some p, [] => .error (p.fault .unexpectedEnd)
  | none, b :: r =>
    if b < 0x80 then (decodeFrom (position + 1) none r).map (Char.ofNat b.toNat :: ·)
    else match begin? position b with
      | some p => decodeFrom (position + 1) (some p) r
      | none => .error ⟨position, b, 1, .invalidStart⟩
  | some p, b :: r =>
    if p.low ≤ b ∧ b ≤ p.high then
      let value := p.value * 64 + (b.toNat - 0x80)
      match p.owed with
      | 0 => (decodeFrom (position + 1) none r).map (Char.ofNat value :: ·)
      | owed + 1 =>
        decodeFrom (position + 1)
          (some { p with seen := p.seen + 1, value, low := 0x80, high := 0xbf, owed }) r
    else .error (p.fault .invalidContinuation)

/-- The text that octets encode. -/
def decode (octets : List UInt8) : Except Fault String :=
  (decodeFrom 0 none octets).map .ofList

/-- The octets that are read at once. -/
def pieceSize : Nat := 8192

/-- Decodes octets as they are read, piece by piece. The octets of a character that has begun at the
end of a piece are carried to the next one, and positions count from the first octet of those. -/
def decodePieces : Nat → List UInt8 → List UInt8 → Except Fault String
  | 0, carried, _ => decode carried
  | fuel + 1, carried, octets =>
    if octets.isEmpty then decode carried
    else
      let data := carried ++ octets.take pieceSize
      match decode data with
      | .ok s => (s ++ ·) <$> decodePieces fuel [] (octets.drop pieceSize)
      | .error f =>
        if f.reason = .unexpectedEnd then do
          let s ← decode (data.take f.position)
          (s ++ ·) <$> decodePieces fuel (data.drop f.position) (octets.drop pieceSize)
        else .error f

/-- The text of a file, which is read piece by piece. -/
def decodeFile (octets : List UInt8) : Except Fault String :=
  decodePieces (octets.length / pieceSize + 1) [] octets

/-- The octets of a text. -/
def encode (s : String) : List UInt8 :=
  s.toUTF8.toList

/-- ASCII octets are decoded one by one. -/
theorem decodeFrom_cons_ascii {position : Nat} {b : UInt8} {r : List UInt8} (h : b < 0x80) :
    decodeFrom position none (b :: r) =
      (decodeFrom (position + 1) none r).map (Char.ofNat b.toNat :: ·) := by
  simp [decodeFrom, h]

end SliceAgent.Text.Utf8

namespace SliceAgent.Text.Base64

/-! ### Base 64 -/

/-- Why a text is no octets. -/
inductive Fault where
  /-- The last group lacks its padding. -/
  | padding
  /-- The last group has one digit, after some number of whole groups. -/
  | extraDigit (digits : Nat)
  deriving DecidableEq, Repr

/-- The wording of a fault. -/
def Fault.message : Fault → String
  | .padding => "Incorrect padding"
  | .extraDigit digits =>
    s!"Invalid base64-encoded string: number of data characters ({digits}) cannot be 1 more " ++
      "than a multiple of 4"

/-- The value of a digit of the base. -/
def digitValue? (c : Char) : Option Nat :=
  if 'A' ≤ c ∧ c ≤ 'Z' then some (c.toNat - 65)
  else if 'a' ≤ c ∧ c ≤ 'z' then some (c.toNat - 71)
  else if '0' ≤ c ∧ c ≤ '9' then some (c.toNat + 4)
  else if c = '+' then some 62
  else if c = '/' then some 63
  else none

/-- The group that is open: its digits so far, the bits of them that are in no octet, and the
padding behind the last digit. -/
structure Open where
  digits : Nat := 0
  bits : Nat := 0
  pads : Nat := 0

/-- Adds a digit to a group; the second, third and fourth one complete an octet. -/
def Open.add (o : Open) (value : Nat) (octets : List UInt8) : Open × List UInt8 :=
  match o.digits with
  | 0 => (⟨1, value, 0⟩, octets)
  | 1 => (⟨2, value % 16, 0⟩, .ofNat (o.bits * 4 + value / 16) :: octets)
  | 2 => (⟨3, value % 4, 0⟩, .ofNat (o.bits * 16 + value / 4) :: octets)
  | _ => (⟨0, 0, 0⟩, .ofNat (o.bits * 64 + value) :: octets)

/-- Reads characters with a group open; `octets` are those so far, last one first. -/
def decodeFrom (o : Open) (octets : List UInt8) : List Char → Except Fault (List UInt8)
  | [] =>
    match o.digits with
    | 0 => .ok octets.reverse
    | 1 => .error (.extraDigit (octets.length / 3 * 4 + 1))
    | _ => .error .padding
  | c :: r =>
    if c = '=' then
      if 2 ≤ o.digits then
        if 4 ≤ o.digits + o.pads + 1 then .ok octets.reverse
        else decodeFrom { o with pads := o.pads + 1 } octets r
      else decodeFrom o octets r
    else match digitValue? c with
      | none => decodeFrom o octets r
      | some value =>
        let (o, octets) := o.add value octets
        decodeFrom o octets r

/-- The octets that characters stand for. -/
def decodeChars (cs : List Char) : Except Fault (List UInt8) :=
  decodeFrom {} [] cs

/-- The octets that a text stands for. -/
def decode (s : String) : Except Fault (List UInt8) :=
  decodeChars s.toList

/-- The octets that other octets stand for, taken as characters one by one. -/
def decodeOctets (octets : List UInt8) : Except Fault (List UInt8) :=
  decodeChars (octets.map fun b => .ofNat b.toNat)

end SliceAgent.Text.Base64

namespace SliceAgent.Text

/-! ### What an encoding can hold -/

/-- An encoding, by what it cannot hold. -/
structure Encoding where
  name : String
  /-- Whether a code point can be held. -/
  holds : CodePoint → Bool
  /-- Whether a code point is told along with one before it that cannot be held. -/
  continues : CodePoint → Bool
  /-- Why code points cannot be held. -/
  reason : String

namespace Encoding

/-- The encoding of the code points below a limit. -/
def below (name : String) (limit : Nat) : Encoding where
  name
  holds c := decide (c.code < limit)
  continues c := !decide (c.code < limit)
  reason := s!"ordinal not in range({limit})"

/-- The encoding of ASCII. -/
def ascii : Encoding :=
  below "ascii" 128

/-- The encoding of one octet for each character. -/
def octets : Encoding :=
  below "latin-1" 256

/-- The encoding of characters. -/
def utf8 : Encoding where
  name := "utf-8"
  holds c := c.char?.isSome
  continues c := c.char?.isNone
  reason := "surrogates not allowed"

/-- The encoding of names of files, where halves of some codes stand for octets. -/
def fileName : Encoding :=
  { utf8 with holds := fun c => c.char?.isSome || decide (0xdc80 ≤ c.code ∧ c.code ≤ 0xdcff) }

/-- What is said of a text that an encoding cannot hold; nothing if it can hold it. -/
def fault? (e : Encoding) (t : CodeText) : Option String :=
  let start := (t.takeWhile e.holds).length
  let place := match t.drop start with
    | [] => none
    | c :: r =>
      match (r.takeWhile e.continues).length with
      | 0 => some s!"character '{escapedCode c.code}' in position {start}"
      | more => some s!"characters in position {start}-{start + more}"
  place.map fun p => s!"'{e.name}' codec can't encode {p}: {e.reason}"

/-- The octets of the name of a file. -/
def fileNameOctets (t : CodeText) : List UInt8 :=
  t.flatMap fun
    | .char c => (String.singleton c).toUTF8.toList
    | .half code => [.ofNat (code % 0x100)]

end Encoding

end SliceAgent.Text
