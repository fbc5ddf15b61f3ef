import SliceAgent.Files.Access
import SliceAgent.Decimal.Basic
import SliceAgent.Text.Basic

/-!
# Device directories

The driver shows each device as a directory of small text files. `readText` reads one without the
blank characters at its ends, `readInt64` and `readUInt32` read it as a number of that range. The
numerals are strict: ASCII digits, at most one sign where a sign is allowed, `0x` before
hexadecimal digits of an unsigned number. What else a numeral may have is refused before it is read
as one (`strictInt?`).

A device directory has a link `device` to the function on the bus. Its target names the bus
address (`readBusAddress`), and the directory behind it holds the NUMA node (`readNumaNode`). The
address is the last component of the target once every `..` has taken back the component before it
(`linkAddress?`).

A `Sysfs.Fault` says why an attribute of a device directory has no value: which attribute, in
which directory, and the `Cause`. The cause decides the wording and the kind of fault. Faults of
this sort are expected; an `Interruption` also covers what is not, a path that cannot be asked
for and a directory test that fails by itself.
-/

namespace SliceAgent.Sysfs

/-! ### Faults -/

/-- Why the text of an attribute file cannot be read, or is not a number as asked for. -/
inductive ValueCause where
  | unreadable (fault : FileFault)
  | undecodable (fault : Text.Utf8.Fault)
  | notInteger (text : String)
  | signed (text : String)
  | outOfInt64 (text : String)
  | outOfUInt32 (text : String)
  deriving DecidableEq, Repr

namespace ValueCause

/-- Whether there was a text, but not one that is asked for. -/
def isParse : ValueCause → Bool
  | .unreadable _ | .undecodable _ => false
  | _ => true

/-- The wording of a bad value. -/
def text : ValueCause → String
  | .unreadable f => s!"failed to read attribute: {f.message}"
  | .undecodable f => s!"failed to read attribute: {f.message}"
  | .notInteger s => s!"invalid integer {Text.quoted s}"
  | .signed s => s!"signed value {Text.quoted s}"
  | .outOfInt64 s => s!"value {s} out of int64 range"
  | .outOfUInt32 s => s!"value {s} out of uint32 range"

end ValueCause

/-- Why an attribute of a device has no value. -/
inductive Cause where
  | value (cause : ValueCause)
  /-- The device link leads to no directory. -/
  | dangling
  /-- The NUMA node behind the device link, in the directory of the given path, has no value. -/
  | behindLink (cause : ValueCause) (attr path : String)
  /-- The device link cannot be read. -/
  | linkUnreadable (fault : FileFault)
  /-- The target of the device link names no device. -/
  | noAddress (target : String)
  deriving DecidableEq, Repr

/-- The kinds of fault: of an attribute file, of the number in it, of the device link. -/
inductive FaultKind where
  | file
  | number
  | link
  deriving DecidableEq, Repr

/-- The message that names the attribute and the directory after the cause. -/
def located (text attr path : String) : String :=
  s!"{text}: {attr} ({path})"

namespace Cause

/-- The kind of fault that a cause is. -/
def kind : Cause → FaultKind
  | .value c => if c.isParse then .number else .file
  | .behindLink c _ _ => if c.isParse then .number else .link
  | _ => .link

/-- The wording of a cause. -/
def text : Cause → String
  | .value c => c.text
  | .dangling => "device link does not resolve"
  | .behindLink c attr path =>
    (if c.isParse then "failed to parse numa_node: " else "failed to read numa_node: ") ++
      located c.text attr path
  | .linkUnreadable f => s!"failed to read device symlink: {f.message}"
  | .noAddress target => s!"no bus address in link target {Text.quoted target}"

end Cause

/-- A fault of one attribute in one directory, the path as the caller wrote it. -/
structure Fault where
  cause : Cause
  attr : String
  path : String
  deriving DecidableEq, Repr

/-- The wording of a fault. -/
def Fault.message (f : Fault) : String :=
  located f.cause.text f.attr f.path

/-- What ends the reading of an attribute. -/
inductive Interruption where
  | fault (f : Fault)
  | nullCharacter
  | system (f : FileFault)
  deriving DecidableEq, Repr

/-! ### Attribute files -/

/-- The bounds of signed and unsigned words. -/
def int64Min : Int := -0x8000000000000000
def int64Max : Int := 0x7fffffffffffffff
def uint32Max : Nat := 0xffffffff

/-- The whole number that a text stands for in base 10 or 16, if the text is all ASCII and has no
blanks, underscores and marks, which numerals are else read with. -/
def strictInt? (base : Nat) (cs : List Char) : Option Int :=
  if cs = [] ∨ cs.any (128 ≤ ·.toNat) ∨ '_' ∈ cs ∨ cs ≠ Text.dropEnds Text.isBlank cs then none
  else if base = 16 ∧ (cs.take 2).map Char.toLower = ['0', 'x'] then none
  else Numeral.int? base cs

/-- A signed number of 64 bits. -/
def int64OfText (text : String) : Except ValueCause Int :=
  match strictInt? 10 text.toList with
  | none => .error (.notInteger text)
  | some n => if int64Min ≤ n ∧ n ≤ int64Max then .ok n else .error (.outOfInt64 text)

/-- The digits of an unsigned numeral and their base. -/
def splitBase : List Char → Nat × List Char
  | '0' :: 'x' :: ds => (16, ds)
  | '0' :: 'X' :: ds => (16, ds)
  | ds => (10, ds)

/-- An unsigned number of 32 bits. -/
def uint32OfText (text : String) : Except ValueCause Nat :=
  let (base, digits) := splitBase text.toList
  if digits.head? = some '+' ∨ digits.head? = some '-' then .error (.signed text)
  else match strictInt? base digits with
    | none => .error (.notInteger (.ofList digits))
    | some n => if n ≤ uint32Max then .ok n.toNat else .error (.outOfUInt32 text)

/-- The text of an attribute file: its octets as UTF-8, every line end as a line feed, without
the blank characters at its ends. -/
def textOfOctets (octets : List UInt8) : Except Text.Utf8.Fault String :=
  (Text.Utf8.decode octets).map fun s => Text.trim (Text.unixLines s)

/-- A fault of an attribute's value. -/
def valueFault (directory attr : String) (cause : ValueCause) : Interruption :=
  .fault ⟨.value cause, attr, directory⟩

/-- The text of an attribute of a device directory. -/
def readText (t : FileTree) (directory attr : String) : Except Interruption String :=
  match t.read? ((Path.ofText directory).child attr) with
  | .error (.system f) => .error (valueFault directory attr (.unreadable f))
  | .error .nullCharacter => .error .nullCharacter
  | .ok octets =>
    (textOfOctets octets).mapError fun f => valueFault directory attr (.undecodable f)

/-- A signed attribute of 64 bits. -/
def readInt64 (t : FileTree) (directory attr : String) : Except Interruption Int :=
  (readText t directory attr).bind fun text =>
    (int64OfText text).mapError (valueFault directory attr)

/-- An unsigned attribute of 32 bits. -/
def readUInt32 (t : FileTree) (directory attr : String) : Except Interruption Nat :=
  (readText t directory attr).bind fun text =>
    (uint32OfText text).mapError (valueFault directory attr)

/-! ### The device link -/

/-- The name of the link, and of the attribute behind it. -/
def linkName : String := "device"
def numaAttribute : String := "numa_node"

/-- Adds a component to those that are open, the last one first; `..` takes the last one back. -/
def openComponent (open_ : List String) (c : String) : List String :=
  if c = ".." then open_.tail else c :: open_

/-- The last component of a link target that no `..` takes back. -/
def linkAddress? (target : String) : Option String :=
  ((components target).foldl openComponent []).head?

/-- The bus address that the device link points to. -/
def readBusAddress (t : FileTree) (directory : String) : Except Interruption String :=
  let fault (cause : Cause) : Interruption := .fault ⟨cause, linkName, directory⟩
  match t.readLink? ((Path.ofText directory).child linkName) with
  | .error (.system f) => .error (fault (.linkUnreadable f))
  | .error .nullCharacter => .error .nullCharacter
  | .ok target => (linkAddress? target).elim (.error (fault (.noAddress target))) .ok

/-- A fault of the value behind the link is one of the device directory. -/
def Interruption.throughLink (directory : String) : Interruption → Interruption
  | .fault ⟨.value cause, attr, path⟩ =>
    .fault ⟨.behindLink cause attr path, numaAttribute, directory⟩
  | i => i

/-- The NUMA node of the function behind the device link. -/
def readNumaNode (t : FileTree) (directory : String) : Except Interruption Int :=
  let link := (Path.ofText directory).child linkName
  match t.isDirectory? link with
  | .error f => .error (.system f)
  | .ok false => .error (.fault ⟨.dangling, numaAttribute, directory⟩)
  | .ok true => (readInt64 t link.text numaAttribute).mapError (.throughLink directory)

end SliceAgent.Sysfs
