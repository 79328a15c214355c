import BootDisk.Kernel

/-!
# Booting a machine

A machine has regions of mapped memory. Booting takes the disk from where it is mapped and loads
the kernel to its address. Both have to be mapped, and they must not share memory: anything else
is a fault, since the loader cannot tell it from a sound machine.

`startUp` boots and, if that is aborted, halts with the diagnostic on the console.
-/

namespace BootDisk

/-- A stretch of mapped memory. -/
structure Region where
  base : UInt64
  bytes : Bytes
  deriving DecidableEq

namespace Region

/-- Whether a stretch of memory is inside the region. -/
def covers (region : Region) (address length : Nat) : Bool :=
  region.base.toNat ≤ address && address + length ≤ region.base.toNat + region.bytes.size

end Region

/-- The mapped memory of a machine. -/
structure Machine where
  regions : List Region
  deriving DecidableEq

namespace Machine

/-- The bytes of a stretch of memory, if it is mapped. A stretch without bytes always is. -/
def read? (m : Machine) (address : UInt64) (length : Nat) : Option Bytes :=
  if length = 0 then
    some #[]
  else
    (m.regions.find? (·.covers address.toNat length)).map fun region =>
      let offset := address.toNat - region.base.toNat
      region.bytes.extract offset (offset + length)

/-- The mapped memory from an address on. -/
def readFrom (m : Machine) (address : UInt64) : Bytes :=
  match m.regions.find? (·.covers address.toNat 1) with
  | none => #[]
  | some region => region.bytes.extract (address.toNat - region.base.toNat) region.bytes.size

/-- The machine with `bytes` in memory from an address on. -/
def write (m : Machine) (address : UInt64) (bytes : Bytes) : Machine where
  regions := m.regions.map fun region =>
    if region.covers address.toNat 1 then
      { region with bytes := region.bytes.overwrite (address.toNat - region.base.toNat) bytes }
    else
      region

/-- Whether two stretches of memory share a byte. -/
def overlap (a : UInt64) (aLength : Nat) (b : UInt64) (bLength : Nat) : Bool :=
  max a.toNat b.toNat < min (a.toNat + aLength) (b.toNat + bLength)

/-- The room for the kernel at its address: as much as the kernel needs, apart from the disk. -/
def kernelRoom (settings : Settings) (entry : DirectoryEntry) : Loader LoadError Nat := do
  if overlap settings.diskBase settings.diskSize.toNat
      settings.kernelAddress entry.size.toNat then
    Loader.fault (.overlapping settings.diskBase settings.kernelAddress)
  Volume.exactRoom entry

/-- Loads the kernel from the mapped disk to the destination. -/
def bootStep (settings : Settings) (m : Machine) : Loader Abort UInt32 := do
  Loader.log (.bootStarted settings.diskBase settings.kernelAddress)
  match m.read? settings.diskBase settings.diskSize.toNat with
  | none => Loader.fault (.unmapped settings.diskBase settings.diskSize.toNat)
  | some disk =>
    Kernel.loadFrom settings disk fun volume =>
      volume.loadInto .strict (kernelRoom settings) settings.kernelPath

/-- What booting comes to: the size of the kernel or why there is none, the log, and the memory
that is left behind. -/
structure Boot where
  outcome : Except (Stop Abort) UInt32
  log : Array Event
  machine : Machine

/-- Loads the kernel from the mapped disk to its address. -/
def boot (settings : Settings) (m : Machine) : Boot :=
  match bootStep settings m (.start (m.readFrom settings.kernelAddress)) with
  | .ok size w => ⟨.ok size, w.log, m.write settings.kernelAddress w.destination⟩
  | .error stop w => ⟨.error stop, w.log, m.write settings.kernelAddress w.destination⟩

/-- The state a started machine is in. -/
inductive State where
  /-- The kernel is loaded and has this size. -/
  | ready (size : UInt32)
  /-- Nothing is done any more. -/
  | halted
  /-- The machine is not sound. -/
  | faulty (cause : Fault)
  deriving DecidableEq

/-- What starting a machine comes to: its state, what is on the console, the log, and the memory
that is left behind. -/
structure Startup where
  state : State
  console : String
  log : Array Event
  machine : Machine

/-- Puts the diagnostic of an abort on the console and into the log. Nothing is done after that. -/
def halt (reason : Abort) (boot : Boot) : Startup where
  state := .halted
  console := reason.line
  log := boot.log.push (.halted reason)
  machine := boot.machine

/-- Boots, and halts if that is aborted. -/
def startUp (settings : Settings) (m : Machine) : Startup :=
  let boot := m.boot settings
  match boot.outcome with
  | .ok size => ⟨.ready size, "", boot.log, boot.machine⟩
  | .error (.failure reason) => halt reason boot
  | .error (.fault cause) => ⟨.faulty cause, "", boot.log, boot.machine⟩

end Machine

end BootDisk
