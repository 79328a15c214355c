import BootDisk.Kernel
import BootDisk.Proofs.Resolve

/-!
# The stages of loading the kernel

Loading the kernel finds the partition, opens the volume in it, and settles what loading the file
gives. Each stage either ends the load or hands on to the next one, and there is an equation for
either case. Up to the volume nothing depends on how the file is loaded (`loadFrom_eq`).
-/

namespace BootDisk

open Loader

/-- The workspace with one more event in its log. -/
def Workspace.logged (event : Event) (w : Workspace) : Workspace :=
  { w with log := w.log.push event }

/-- The workspace with more events in its log. -/
def Workspace.told (events : Array Event) (w : Workspace) : Workspace :=
  { w with log := w.log ++ events }

theorem Workspace.logged_eq (event : Event) (w : Workspace) : w.logged event = w.told #[event] := by
  rw [logged, told, Array.push_eq_append]

theorem Workspace.told_empty (w : Workspace) : w.told #[] = w := by
  rw [told, Array.append_empty]

theorem Workspace.told_told (events events' : Array Event) (w : Workspace) :
    (w.told events).told events' = w.told (events ++ events') := by
  simp only [told, Array.append_assoc]

namespace Partition

/-- Where on a disk the partition starts. -/
def startOn (disk : Bytes) : PartitionLookup → Except Abort UInt64
  | .atOffset offset => .ok offset
  | .bootRecord => (firstSector disk).map fun sector => sector.toUInt64 * sectorLength

/-- What is told of the search for the partition. -/
def searchEvents (disk : Bytes) : PartitionLookup → Array Event
  | .atOffset _ => #[]
  | .bootRecord => ((firstSector disk).toOption.map Event.partitionListed).toArray

/-- The partition on a disk. -/
def onDisk (disk : Bytes) (lookup : PartitionLookup) : Except Abort Partition :=
  startOn disk lookup >>= startingAt disk

theorem ofDisk_eq (disk : Bytes) (lookup : PartitionLookup) (w : Workspace) :
    ofDisk disk lookup w = ofExcept (onDisk disk lookup) (w.told (searchEvents disk lookup)) := by
  cases lookup with
  | atOffset offset =>
    show _ = ofExcept _ (w.told #[])
    rw [w.told_empty]
    rfl
  | bootRecord =>
    unfold ofDisk onDisk startOn searchEvents
    cases firstSector disk with
    | error reason =>
      show _ = ofExcept (.error reason) (w.told #[])
      rw [w.told_empty]
      rfl
    | ok sector =>
      show _ = ofExcept _ (w.told #[.partitionListed sector])
      rw [← w.logged_eq]
      rfl

theorem outcome_ofDisk (disk : Bytes) (lookup : PartitionLookup) (w : Workspace) :
    (ofDisk disk lookup).outcome w = (onDisk disk lookup).mapError .failure := by
  rw [outcome, ofDisk_eq]
  exact outcome_ofExcept ..

end Partition

namespace Volume

/-- What is told once a volume is opened. -/
def openEvents (opened : Except Abort Volume) : Array Event :=
  (opened.toOption.map fun v => Event.volumeOpened v.parameters).toArray

variable {image : Bytes} {settings : Settings} {w : Workspace}

theorem openImage_of_error {reason : Abort} (closed : ofImage image settings = .error reason) :
    openImage image settings w = .error (.failure reason) w := by
  rw [openImage, closed]
  rfl

theorem openImage_of_ok {v : Volume} (opened : ofImage image settings = .ok v) :
    openImage image settings w = .ok v (w.logged (.volumeOpened v.parameters)) := by
  rw [openImage, opened]
  rfl

theorem openImage_eq (image : Bytes) (settings : Settings) (w : Workspace) :
    openImage image settings w =
      ofExcept (ofImage image settings) (w.told (openEvents (ofImage image settings))) := by
  cases opened : ofImage image settings with
  | error reason =>
    rw [openImage_of_error opened]
    exact congrArg _ w.told_empty.symm
  | ok v =>
    rw [openImage_of_ok opened, w.logged_eq]
    rfl

theorem outcome_openImage (image : Bytes) (settings : Settings) (w : Workspace) :
    (openImage image settings).outcome w = (ofImage image settings).mapError .failure := by
  rw [outcome, openImage_eq]
  exact outcome_ofExcept ..

end Volume

namespace Kernel

variable {settings : Settings} {disk image : Bytes} {start : UInt64} {w w' : Workspace}
  {reason : Abort}

/-- Opens the volume in an image and loads the kernel from it. -/
def loadImage (settings : Settings) (image : Bytes) : Loader Abort UInt32 := do
  let volume ← Volume.openImage image settings
  settle settings (volume.load .strict settings.kernelPath)

/-- Loads the kernel from the partition that starts at an offset. -/
def loadAt (settings : Settings) (disk : Bytes) (start : UInt64) : Loader Abort UInt32 := do
  let partition ← ofExcept (Partition.startingAt disk start)
  loadImage settings partition.image

/-- The volume on a disk. -/
def volumeOn (settings : Settings) (disk : Bytes) : Except Abort Volume := do
  let partition ← Partition.onDisk disk settings.partition
  Volume.ofImage partition.image settings

theorem volumeOn_of_no_partition (lost : Partition.onDisk disk settings.partition = .error reason) :
    volumeOn settings disk = .error reason := by
  rw [volumeOn, lost]
  rfl

theorem volumeOn_of_partition {partition : Partition}
    (located : Partition.onDisk disk settings.partition = .ok partition) :
    volumeOn settings disk = Volume.ofImage partition.image settings := by
  rw [volumeOn, located]
  rfl

/-- A partition that starts with the disk is the disk. -/
theorem volumeOn_of_whole (whole : settings.partition = .atOffset 0) :
    volumeOn settings disk = Volume.ofImage disk settings := by
  have located : Partition.onDisk disk settings.partition = .ok ⟨0, disk⟩ := by
    rw [whole]
    show Partition.startingAt disk 0 = _
    simp [Partition.startingAt]
  exact volumeOn_of_partition located

/-- What is told until the volume is opened. -/
def openingEvents (settings : Settings) (disk : Bytes) : Array Event :=
  Partition.searchEvents disk settings.partition ++ Volume.openEvents (volumeOn settings disk)

/-- However the kernel is loaded, the volume on the disk is opened first. -/
theorem loadFrom_eq (settings : Settings) (disk : Bytes)
    (attempt : Volume → Loader LoadError UInt32) (w : Workspace) :
    loadFrom settings disk attempt w =
      match volumeOn settings disk with
      | .error reason => .error (.failure reason) (w.told (openingEvents settings disk))
      | .ok v => settle settings (attempt v) (w.told (openingEvents settings disk)) := by
  have located := Partition.ofDisk_eq disk settings.partition w
  unfold loadFrom openingEvents volumeOn
  cases found : Partition.onDisk disk settings.partition with
  | error reason =>
    rw [found] at located
    refine (bind_error located).trans ?_
    rw [← Workspace.told_told]
    exact congrArg _ (Workspace.told_empty _).symm
  | ok partition =>
    rw [found] at located
    refine (bind_ok located).trans ?_
    have opening := Volume.openImage_eq partition.image settings
      (w.told (Partition.searchEvents disk settings.partition))
    rw [Workspace.told_told] at opening
    simp only [bind, Except.bind]
    cases opened : Volume.ofImage partition.image settings with
    | error reason =>
      rw [opened] at opening
      exact bind_error opening
    | ok v =>
      rw [opened] at opening
      exact bind_ok opening

/-- An abort of the load is one of the kernel. -/
theorem settle_of_abort {attempt : Loader LoadError UInt32}
    (aborted : attempt w = .error (.failure (.abort reason)) w') :
    settle settings attempt w = .error (.failure reason) w' :=
  orRecover_failure (bind_error aborted)

theorem settle_of_ok {attempt : Loader LoadError UInt32} {size : UInt32}
    (loaded : attempt w = .ok size w') :
    settle settings attempt w = .ok size (w'.logged (.kernelLoaded settings.kernelPath size)) :=
  orRecover_ok (bind_ok loaded)

/-- Whatever else kept the kernel from being loaded, it was not. -/
theorem settle_of_absence {attempt : Loader LoadError UInt32} {cause : LoadError}
    (absent : attempt w = .error (.failure cause) w') (noAbort : ∀ reason, cause ≠ .abort reason) :
    settle settings attempt w = .error (.failure (.fileNotLoaded settings.kernelPath))
      (w'.logged (.kernelMissing settings.kernelPath cause)) := by
  refine (orRecover_failure (bind_error absent)).trans ?_
  cases cause with
  | abort reason => exact absurd rfl (noAbort reason)
  | _ => rfl

theorem settle_of_fault {attempt : Loader LoadError UInt32} {cause : Fault}
    (faulted : attempt w = .error (.fault cause) w') :
    settle settings attempt w = .error (.fault cause) w' := by
  simp only [settle, orRecover, bind_error faulted]

/-- The ways an attempt to load the kernel can be settled, by how it ended. -/
theorem settle_cases (settings : Settings) (attempt : Loader LoadError UInt32) (w : Workspace) :
    (∃ size w', attempt w = .ok size w' ∧ settle settings attempt w =
      .ok size (w'.logged (.kernelLoaded settings.kernelPath size))) ∨
    (∃ reason w', attempt w = .error (.failure (.abort reason)) w' ∧ settle settings attempt w =
      .error (.failure reason) w') ∨
    (∃ cause w', attempt w = .error (.failure cause) w' ∧ settle settings attempt w =
      .error (.failure (.fileNotLoaded settings.kernelPath))
        (w'.logged (.kernelMissing settings.kernelPath cause))) ∨
    ∃ cause w', attempt w = .error (.fault cause) w' ∧ settle settings attempt w =
      .error (.fault cause) w' := by
  cases ended : attempt w with
  | ok size w' => exact .inl ⟨size, w', rfl, settle_of_ok ended⟩
  | error stop w' =>
    cases stop with
    | fault cause => exact .inr (.inr (.inr ⟨cause, w', rfl, settle_of_fault ended⟩))
    | failure cause =>
      cases cause with
      | abort reason => exact .inr (.inl ⟨reason, w', rfl, settle_of_abort ended⟩)
      | _ => exact .inr (.inr (.inl ⟨_, w', rfl, settle_of_absence ended nofun⟩))

/-- Settling only adds to the log. -/
theorem destination_after_settle (settings : Settings) (attempt : Loader LoadError UInt32)
    (w : Workspace) :
    ((settle settings attempt).after w).destination = (attempt.after w).destination := by
  rcases settle_cases settings attempt w with ⟨size, w', attempted, settled⟩ |
    ⟨reason, w', attempted, settled⟩ | ⟨cause, w', attempted, settled⟩ |
      ⟨cause, w', attempted, settled⟩
  · rw [after_of_ok settled, after_of_ok attempted]
    rfl
  · rw [after_of_error settled, after_of_error attempted]
  · rw [after_of_error settled, after_of_error attempted]
    rfl
  · rw [after_of_error settled, after_of_error attempted]

/-- The workspace once the volume of the kernel was looked for. -/
def opened (settings : Settings) (disk : Bytes) (w : Workspace) : Workspace :=
  (w.logged .kernelWanted).told (openingEvents settings disk)

theorem load_of_no_volume (closed : volumeOn settings disk = .error reason) :
    load settings disk w = .error (.failure reason) (opened settings disk w) := by
  have loaded : load settings disk w = loadFrom settings disk
      (fun volume => volume.load .strict settings.kernelPath) (w.logged .kernelWanted) := rfl
  rw [loaded, loadFrom_eq, closed]
  rfl

theorem load_of_volume {v : Volume} (opens : volumeOn settings disk = .ok v) :
    load settings disk w =
      settle settings (v.load .strict settings.kernelPath) (opened settings disk w) := by
  have loaded : load settings disk w = loadFrom settings disk
      (fun volume => volume.load .strict settings.kernelPath) (w.logged .kernelWanted) := rfl
  rw [loaded, loadFrom_eq, opens]
  rfl

/-- A load of the kernel never faults. -/
theorem load_ne_fault {cause : Fault} : load settings disk w ≠ .error (.fault cause) w' := by
  intro faulted
  cases opens : volumeOn settings disk with
  | error reason =>
    rw [load_of_no_volume opens] at faulted
    cases faulted
  | ok v =>
    rw [load_of_volume opens] at faulted
    rcases settle_cases settings (v.load .strict settings.kernelPath) (opened settings disk w) with
      ⟨size, w₁, -, settled⟩ | ⟨reason, w₁, -, settled⟩ | ⟨cause', w₁, -, settled⟩ |
        ⟨cause', w₁, attempted, -⟩
    · cases faulted.symm.trans settled
    · cases faulted.symm.trans settled
    · cases faulted.symm.trans settled
    · exact Volume.load_ne_fault attempted

/-- No load of the kernel changes the length of the destination. -/
theorem size_after_load (settings : Settings) (disk : Bytes) (w : Workspace) :
    ((load settings disk).after w).destination.size = w.destination.size := by
  cases opens : volumeOn settings disk with
  | error reason =>
    rw [after_of_error (load_of_no_volume opens)]
    rfl
  | ok v =>
    rw [after, load_of_volume opens]
    exact (congrArg Array.size (destination_after_settle ..)).trans (v.size_after_load ..)

theorem loadImage_of_no_volume (closed : Volume.ofImage image settings = .error reason) :
    loadImage settings image w = .error (.failure reason) w :=
  bind_error (Volume.openImage_of_error closed)

theorem loadImage_of_volume {v : Volume} (opened : Volume.ofImage image settings = .ok v) :
    loadImage settings image w =
      settle settings (v.load .strict settings.kernelPath)
        (w.logged (.volumeOpened v.parameters)) :=
  bind_ok (Volume.openImage_of_ok opened)

theorem loadAt_of_outside (outside : disk.size < start.toNat) :
    loadAt settings disk start w = .error (.failure (.outOfBounds start.toNat 0)) w := by
  rw [loadAt, Partition.startingAt, if_neg (Nat.not_le.mpr outside)]
  rfl

theorem loadAt_of_inside (inside : start.toNat ≤ disk.size) :
    loadAt settings disk start w = loadImage settings (disk.extract start.toNat disk.size) w := by
  rw [loadAt, Partition.startingAt, if_pos inside]
  rfl

theorem load_atOffset (given : settings.partition = .atOffset start) :
    load settings disk w = loadAt settings disk start (w.logged .kernelWanted) := by
  rw [load, loadFrom, given]
  rfl

theorem load_bootRecord_of_error (listed : settings.partition = .bootRecord)
    (none : Partition.firstSector disk = .error reason) :
    load settings disk w = .error (.failure reason) (w.logged .kernelWanted) := by
  rw [load, loadFrom, listed, Partition.ofDisk, none]
  rfl

theorem load_bootRecord_of_sector {sector : UInt32} (listed : settings.partition = .bootRecord)
    (found : Partition.firstSector disk = .ok sector) :
    load settings disk w =
      loadAt settings disk (sector.toUInt64 * Partition.sectorLength)
        ((w.logged .kernelWanted).logged (.partitionListed sector)) := by
  rw [load, loadFrom, listed, Partition.ofDisk, found]
  rfl

end Kernel

end BootDisk
