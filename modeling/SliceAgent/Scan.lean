import SliceAgent.Sysfs
import SliceAgent.Device
import SliceAgent.Log

/-!
# Scanning the class directory

The class directory has an entry for each device, mostly a link to a directory elsewhere. A scan
goes through the entries in the order of their names and records a `Finding` for each: what is no
directory is passed over, a device with an unreadable attribute is dropped with the reason, and
all others are devices. The capabilities alone may be missing.

The devices, the reasons and the log records of a scan are read off its findings. A scan ends
early only if the test whether a device link leads to a directory fails by itself. It logs where it
looks, one record or two for each entry, and how many devices it found.
-/

namespace SliceAgent

/-! ### Findings -/

/-- Why a device is left out. -/
inductive DropReason where
  | fault (f : Sysfs.Fault)
  | nullCharacter
  | negativeMemory (size : Int)
  deriving DecidableEq, Repr

/-- The wording of a reason. -/
def DropReason.message : DropReason → String
  | .fault f => f.message
  | .nullCharacter => AccessFault.nullCharacter.message
  | .negativeMemory n => s!"negative memory_size {n}"

/-- What ends the reading of a device: a reason to leave it out, or an error that nothing
expects. -/
inductive DeviceEnd where
  | dropped (reason : DropReason)
  | halted (fault : FileFault)
  deriving DecidableEq, Repr

namespace DeviceEnd

def ofInterruption : Sysfs.Interruption → DeviceEnd
  | .fault f => .dropped (.fault f)
  | .nullCharacter => .dropped .nullCharacter
  | .system f => .halted f

end DeviceEnd

/-- What the directory of a device yields. The capabilities are found missing before the device
link is looked at. -/
structure DeviceReading where
  outcome : Except DeviceEnd Device
  lacksCapabilities : Bool := false

/-- The memory size of a device. -/
def readMemorySize (t : FileTree) (directory : String) : Except DeviceEnd Nat :=
  match Sysfs.readInt64 t directory "memory_size" with
  | .error i => .error (.ofInterruption i)
  | .ok n => if n < 0 then .error (.dropped (.negativeMemory n)) else .ok n.toNat

/-- Reads a device from its directory: identifier, memory and capabilities first, then what lies
behind the device link. The first fault counts. -/
def readDevice (t : FileTree) (name directory : String) : DeviceReading :=
  let first : Except DeviceEnd (String × Nat) := do
    let uuid ← (Sysfs.readText t directory "uuid").mapError .ofInterruption
    return (uuid, ← readMemorySize t directory)
  match first with
  | .error e => { outcome := .error e }
  | .ok (uuid, memorySize) =>
    let capabilities := Sysfs.readUInt32 t directory "capabilities"
    let outcome : Except DeviceEnd Device := do
      let numaNode ← (Sysfs.readNumaNode t directory).mapError .ofInterruption
      let busAddress ← (Sysfs.readBusAddress t directory).mapError .ofInterruption
      return {
        name, uuid, memorySize, numaNode, busAddress
        kind := .ofName name
        capabilities := (capabilities.toOption.getD 0 : Nat) }
    ⟨outcome, capabilities.toOption.isNone⟩

/-- What a scan finds under a name. -/
inductive Finding where
  | untestable (fault : FileFault)
  | noDirectory
  | dropped (reason : DropReason) (lacksCapabilities : Bool)
  | device (d : Device) (lacksCapabilities : Bool)
  deriving DecidableEq, Repr

/-- The error that ends a scan early, and the entry that it was met at. -/
structure ScanHalt where
  name : String
  lacksCapabilities : Bool
  fault : FileFault
  deriving DecidableEq, Repr

/-- A scan of a directory that could be listed: its findings in the order of names, up to the
entry that ended it early if there was one. -/
structure Scan where
  findings : List (String × Finding)
  halt : Option ScanHalt := none
  deriving DecidableEq, Repr

/-- What one entry adds to a scan, or the error that ends the scan. -/
def findingOf (t : FileTree) (root : Path) (name : String) : Except ScanHalt Finding :=
  let path := root.child name
  match t.isDirectory? path with
  | .error f => .ok (.untestable f)
  | .ok false => .ok .noDirectory
  | .ok true =>
    let reading := readDevice t name path.text
    match reading.outcome with
    | .ok d => .ok (.device d reading.lacksCapabilities)
    | .error (.dropped reason) => .ok (.dropped reason reading.lacksCapabilities)
    | .error (.halted f) => .error ⟨name, reading.lacksCapabilities, f⟩

namespace Scan

/-- Goes through names until one ends the scan. -/
def ofNames (find : String → Except ScanHalt Finding) : List String → Scan
  | [] => { findings := [] }
  | name :: rest =>
    match find name with
    | .error halt => { findings := [], halt := some halt }
    | .ok finding =>
      let scan := ofNames find rest
      { scan with findings := (name, finding) :: scan.findings }

/-- The devices that were found, under their names. -/
def devices (s : Scan) : List (String × Device) :=
  s.findings.filterMap fun
    | (name, .device d _) => some (name, d)
    | _ => none

/-- The devices that were left out, with the reasons. -/
def drops (s : Scan) : List (String × DropReason) :=
  s.findings.filterMap fun
    | (name, .dropped reason _) => some (name, reason)
    | _ => none

end Scan

/-- How a scan of the class directory ends. -/
inductive ScanOutcome where
  /-- The directory does not exist. -/
  | absent
  /-- It exists but cannot be listed. -/
  | unlistable (fault : FileFault)
  | scanned (scan : Scan)
  deriving DecidableEq, Repr

/-- The names in the class directory, sorted; `none` if it does not exist. -/
def listClass (t : FileTree) (root : Path) : Except FileFault (Option (List String)) :=
  match t.exists? root with
  | .error f => .error f
  | .ok false => .ok none
  | .ok true =>
    match t.list? root with
    | .ok names => .ok (some (names.mergeSort fun a b => decide (a ≤ b)))
    | .error (.system f) => .error f
    | .error .nullCharacter => .ok none

/-- Scans the class directory. -/
def scanClass (t : FileTree) (root : Path) : ScanOutcome :=
  match listClass t root with
  | .error f => .unlistable f
  | .ok none => .absent
  | .ok (some names) => .scanned (.ofNames (findingOf t root) names)

namespace ScanOutcome

/-- The devices that were left out, with the reasons. -/
def drops : ScanOutcome → List (String × DropReason)
  | .scanned s => s.drops
  | _ => []

/-- The devices that a scan returns; `none` if it fails or is ended early. -/
def returned? : ScanOutcome → Option (List (String × Device))
  | .absent => some []
  | .unlistable _ => none
  | .scanned s => if s.halt.isNone then some s.devices else none

end ScanOutcome

/-- A scanner of a class directory, and the devices that its most recent scan left out. -/
structure Scanner where
  root : Path
  lastErrors : List (String × DropReason) := []

/-- Scans the class directory as it is now; gives the devices unless the scan fails. What earlier
scans left out is forgotten, however this one ends. -/
def Scanner.scan (s : Scanner) (t : FileTree) : Option (List (String × Device)) × Scanner :=
  let outcome := scanClass t s.root
  (outcome.returned?, { s with lastErrors := outcome.drops })

/-- The message of a scan whose directory cannot be listed. -/
def unlistableMessage (root : Path) (f : FileFault) : String :=
  s!"Failed to read sysfs directory {root.text}: {f.message}"

/-! ### Log records -/

/-- What is said of a device that was found. -/
def Device.summary (d : Device) : String :=
  s!"NUMA={d.numaNode}, Type={d.kind.token}, PCI={d.busAddress}, UUID={d.uuid}"

/-- What is said of a device without capabilities. -/
def capabilitiesRecord (name : String) : Record :=
  .message .debug scanLogger s!"Device {name} has no capabilities attribute, defaulting to 0"

/-- What is logged for one entry. -/
def Finding.records (name : String) : Finding → List Record
  | .untestable f => [.message .debug scanLogger s!"Skipping {name}: stat error: {f.message}"]
  | .noDirectory => [.message .debug scanLogger s!"Skipping {name}: not a directory"]
  | .dropped reason lacks =>
    (if lacks then [capabilitiesRecord name] else []) ++
      [.message .warning scanLogger s!"Failed to scan device {name}: {reason.message}"]
  | .device d lacks =>
    (if lacks then [capabilitiesRecord name] else []) ++
      [.message .debug scanLogger s!"Discovered device {name}: {d.summary}"]

/-- What is logged at the end of a scan that was not ended early. -/
def discoveredRecord (node : String) (count : Nat) : Record :=
  .message .debug scanLogger
    (s!"Discovered {count} devices on node " ++ if node = "" then "<unset>" else node)

/-- What a scan logs. The entry that ends a scan early may lack its capabilities, too. -/
def ScanOutcome.records (root : Path) (node : String) : ScanOutcome → List Record
  | .absent =>
    [.message .debug scanLogger s!"Scanning for devices at {root.text}",
     .message .warning scanLogger s!"Sysfs path {root.text} does not exist, no devices found"]
  | .unlistable _ => [.message .debug scanLogger s!"Scanning for devices at {root.text}"]
  | .scanned s =>
    [.message .debug scanLogger s!"Scanning for devices at {root.text}"] ++
      s.findings.flatMap (fun (name, f) => f.records name) ++
      match s.halt with
      | none => [discoveredRecord node s.devices.length]
      | some h => if h.lacksCapabilities then [capabilitiesRecord h.name] else []

end SliceAgent
