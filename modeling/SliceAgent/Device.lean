/-!
# Devices

A `Device` is one accelerator function as found on the host: a primary function, or a virtual one
that was carved out of a primary function, its parent. The memory of a device is a natural number
and the parent of a virtual function has a name; `DeviceKind.virtual?` and `Device.make?` check
both where they come from outside.

The name of a virtual function is the name of its parent, the marker `_vf` and a number;
`DeviceKind.ofName` reads a name that way and takes every other name for a primary function.
A slice is named for its driver, node and device, and an attribute for its driver.
-/

namespace SliceAgent

/-- Primary function, or virtual function of a parent. -/
inductive DeviceKind where
  | primary
  | virtual (parent : String) (parent_ne_empty : parent ≠ "")
  deriving DecidableEq, Repr

namespace DeviceKind

/-- The short name of the kind. -/
def token : DeviceKind → String
  | .primary => "pf"
  | .virtual _ _ => "vf"

/-- The name of the parent, empty for a primary function. -/
def parentName : DeviceKind → String
  | .primary => ""
  | .virtual p _ => p

/-- Whether a kind is that of virtual functions. -/
def isVirtual : DeviceKind → Bool
  | .primary => false
  | .virtual _ _ => true

/-- A function is virtual exactly if its parent has a name. -/
theorem isVirtual_iff (k : DeviceKind) : k.isVirtual = true ↔ k.parentName ≠ "" := by
  cases k with
  | primary => simp [isVirtual, parentName]
  | virtual p h => simpa [isVirtual, parentName] using h

end DeviceKind

/-- One accelerator function of the host. A negative NUMA node means that there is none near. -/
structure Device where
  name : String
  uuid : String
  memorySize : Nat
  numaNode : Int
  kind : DeviceKind
  busAddress : String
  capabilities : Int
  deriving DecidableEq, Repr

/-- Why a description is not a device. -/
inductive DeviceFault where
  | missingParent
  | negativeMemory (size : Int)
  deriving DecidableEq, Repr

/-- The wording of a fault. -/
def DeviceFault.message : DeviceFault → String
  | .missingParent => "virtual function requires a parent device name"
  | .negativeMemory n => s!"memory_size must be non-negative, got {n}"

/-- The virtual function of a named parent. -/
def DeviceKind.virtual? (parent : String) : Except DeviceFault DeviceKind :=
  if h : parent = "" then .error .missingParent else .ok (.virtual parent h)

/-- A device whose memory size is any whole number, if that is not negative. -/
def Device.make? (name uuid : String) (memorySize numaNode : Int) (kind : DeviceKind)
    (busAddress : String) (capabilities : Int) : Except DeviceFault Device :=
  if memorySize < 0 then .error (.negativeMemory memorySize)
  else .ok ⟨name, uuid, memorySize.toNat, numaNode, kind, busAddress, capabilities⟩

/-- The devices under their keys, sorted by key. -/
def sortByKey {α : Type} (entries : List (String × α)) : List (String × α) :=
  entries.mergeSort fun a b => decide (a.1 ≤ b.1)

/-! ### Names -/

/-- The kind of device that a name stands for: virtual exactly if it is a non-empty parent name,
`_vf` and at least one ASCII digit. -/
def DeviceKind.ofName (name : String) : DeviceKind :=
  let reversed := name.toList.reverse
  match reversed.takeWhile Char.isDigit, reversed.dropWhile Char.isDigit with
  | _ :: _, 'f' :: 'v' :: '_' :: c :: parent =>
    .virtual (.ofList (parent.reverse ++ [c])) (by simp)
  | _, _ => .primary

/-- The driver that is advertised when no other is configured. -/
def defaultDriver : String :=
  "mock-accel.example.com"

/-- The name of the slice of a device. -/
def sliceName (driver node device : String) : String :=
  driver ++ "-" ++ node ++ "-" ++ device

/-- A name in the domain of a driver. -/
def qualifiedName (driver name : String) : String :=
  driver ++ "/" ++ name

end SliceAgent
