import BootDisk.Machine
import BootDisk.Proofs.Locality
import BootDisk.Proofs.Lockstep

/-!
# Booting is loading the kernel

A machine that boots takes the disk from its memory and loads the kernel to an address there, where
it makes as much room as the kernel needs. On a machine whose disk is mapped, and whose memory for
the kernel is apart from the disk and large enough, this comes to the same as loading the kernel
from the disk into that memory (`boot_agrees_with_load`), and a machine that starts up halts exactly
where the load fails.
-/

namespace BootDisk

open Loader

namespace Kernel

variable {settings : Settings} {disk : Bytes} {w w' : Workspace} {R : Workspace → Workspace → Prop}

/-- Attempts that end alike are settled alike, where what is related may be told the same. -/
theorem settle_alike {attempt attempt' : Loader LoadError UInt32}
    (logged : ∀ event w₁ w₁', R w₁ w₁' → R (w₁.logged event) (w₁'.logged event))
    (alike : Alike R (attempt w) (attempt' w')) :
    Alike R (settle settings attempt w) (settle settings attempt' w') := by
  apply Alike.orRecover
  · apply alike.bind
    intro size w₁ w₁' _ related
    exact .ok size (logged _ w₁ w₁' related)
  · intro cause w₁ w₁' related
    cases cause with
    | abort reason => exact .error (.failure reason) related
    | unsupportedPath => exact .error _ (logged _ w₁ w₁' related)
    | notFound => exact .error _ (logged _ w₁ w₁' related)
    | truncated expected read => exact .error _ (logged _ w₁ w₁' related)

/-- Loads from one disk end alike, if the attempts on its volume do. -/
theorem loadFrom_alike {rest : Bytes} {front front' : Array Event}
    {attempt attempt' : Volume → Loader LoadError UInt32}
    (related : Workspace.Beside rest front front' w w')
    (alike : ∀ v w₁ w₁', volumeOn settings disk = .ok v → w₁.destination = w.destination →
      Workspace.Beside rest front front' w₁ w₁' →
        Alike (Workspace.Beside rest front front') (attempt v w₁) (attempt' v w₁')) :
    Alike (Workspace.Beside rest front front') (loadFrom settings disk attempt w)
      (loadFrom settings disk attempt' w') := by
  have told : Workspace.Beside rest front front' (w.told (openingEvents settings disk))
      (w'.told (openingEvents settings disk)) := related.told _ rfl rfl rfl rfl
  rw [loadFrom_eq, loadFrom_eq]
  cases opened : volumeOn settings disk with
  | error reason => exact .error (.failure reason) told
  | ok v =>
    exact settle_alike (fun event w₁ w₁' h => h.logged event) (alike v _ _ opened rfl told)

end Kernel

namespace Machine

variable {settings : Settings} {m : Machine}

/-! Memory. -/

/-- Writing changes no region's place. -/
theorem find?_write (m : Machine) (address : UInt64) (bytes : Bytes) (place length : Nat) :
    (m.write address bytes).regions.find? (·.covers place length) =
      (m.regions.find? (·.covers place length)).map fun region =>
        if region.covers address.toNat 1 then
          { region with bytes := region.bytes.overwrite (address.toNat - region.base.toNat) bytes }
        else
          region := by
  rw [write, List.find?_map]
  congr 2
  funext region
  rw [Function.comp]
  split
  · simp only [Region.covers, Bytes.size_overwrite]
  · rfl

/-- What is written over all the memory from an address on is read back. -/
theorem readFrom_write {address : UInt64} {bytes : Bytes}
    (all : bytes.size = (m.readFrom address).size) :
    (m.write address bytes).readFrom address = bytes := by
  unfold readFrom at all ⊢
  rw [find?_write]
  cases found : m.regions.find? (·.covers address.toNat 1) with
  | none =>
    rw [found] at all
    exact (Array.eq_empty_of_size_eq_zero all).symm
  | some region =>
    have covered : region.covers address.toNat 1 = true := by
      simpa using List.find?_some found
    have inside : region.base.toNat ≤ address.toNat ∧
        address.toNat + 1 ≤ region.base.toNat + region.bytes.size := by
      simpa [Region.covers] using covered
    rw [found] at all
    simp only [Option.map_some, if_pos covered, Bytes.size_overwrite]
    simp only [Array.size_extract] at all
    apply Array.ext_getElem?
    intro i
    rw [Array.getElem?_extract, Bytes.getElem?_overwrite, Bytes.size_overwrite]
    by_cases within : i < bytes.size
    · rw [if_pos (by omega), if_pos (by omega)]
      congr 1
      omega
    · rw [if_neg (by omega), Array.getElem?_eq_none (by omega)]

/-- What booting relies on: the disk is mapped where the settings say, and the memory at the address
of the kernel starts with a destination that shares no byte with the disk and has room for the
kernel, if there is an entry for it. -/
structure Provides (m : Machine) (settings : Settings) (disk destination rest : Bytes) : Prop where
  disk_mapped : m.read? settings.diskBase settings.diskSize.toNat = some disk
  destination_mapped : m.readFrom settings.kernelAddress = destination ++ rest
  apart : overlap settings.diskBase settings.diskSize.toNat settings.kernelAddress
    destination.size = false
  room : ∀ v entry, Kernel.volumeOn settings disk = .ok v →
    v.resolve settings.kernelPath = .ok entry → entry.size.toNat ≤ destination.size

theorem overlap_eq_false_of_le {a b : UInt64} {aLength bLength length : Nat}
    (apart : overlap a aLength b bLength = false) (shorter : length ≤ bLength) :
    overlap a aLength b length = false := by
  simp only [overlap, decide_eq_false_iff_not] at apart ⊢
  omega

/-- The room for a kernel that fits apart from the disk is as much as it needs. -/
theorem kernelRoom_of_apart {entry : DirectoryEntry} {w : Workspace}
    (apart : overlap settings.diskBase settings.diskSize.toNat settings.kernelAddress
      entry.size.toNat = false) (fits : entry.size.toNat ≤ w.destination.size) :
    kernelRoom settings entry w = .ok entry.size.toNat w := by
  simp only [kernelRoom, apart]
  exact Volume.exactRoom_of_le fits

theorem bootStep_of_mapped {disk : Bytes} (w : Workspace)
    (mapped : m.read? settings.diskBase settings.diskSize.toNat = some disk) :
    bootStep settings m w =
      Kernel.loadFrom settings disk
        (fun v => v.loadInto .strict (kernelRoom settings) settings.kernelPath)
        (w.logged (.bootStarted settings.diskBase settings.kernelAddress)) := by
  simp only [bootStep, mapped]
  rfl

/-- The step of booting ends like the load of the kernel. -/
theorem Provides.alike {disk destination rest : Bytes}
    (h : m.Provides settings disk destination rest) :
    Alike
      (Workspace.Beside rest #[.kernelWanted]
        #[.bootStarted settings.diskBase settings.kernelAddress])
      (Kernel.load settings disk (.start destination))
      (bootStep settings m (.start (m.readFrom settings.kernelAddress))) := by
  rw [bootStep_of_mapped _ h.disk_mapped, h.destination_mapped]
  apply Kernel.loadFrom_alike (Workspace.Beside.start destination rest _ _)
  intro v w w' opened same related
  have size : w.destination.size = destination.size := congrArg Array.size same
  apply Volume.loadInto_alike related
  · intro entry found
    rw [size]
    exact h.room v entry opened found
  · intro entry found
    have fits := h.room v entry opened found
    have within : entry.size.toNat ≤ w'.destination.size := by
      rw [related.destination, Array.size_append, size]
      omega
    refine ⟨entry.size.toNat, ?_, Nat.le_refl _, within⟩
    apply kernelRoom_of_apart (overlap_eq_false_of_le h.apart fits)
    rw [Volume.destination_searched]
    exact within

/-- Booting is its step, from the memory at the address of the kernel and back into it. -/
theorem boot_eq (settings : Settings) (m : Machine) :
    m.boot settings =
      let w := Workspace.start (m.readFrom settings.kernelAddress)
      { outcome := (bootStep settings m).outcome w
        log := ((bootStep settings m).after w).log
        machine := m.write settings.kernelAddress ((bootStep settings m).after w).destination } := by
  rw [boot]
  split
  · rename_i ended
    simp only [outcome_of_ok ended, after_of_ok ended]
  · rename_i ended
    simp only [outcome_of_error ended, after_of_error ended]

/-- Starting up is booting, and halting where that is aborted. -/
theorem startUp_of_ok {size : UInt32} (booted : (m.boot settings).outcome = .ok size) :
    m.startUp settings = ⟨.ready size, "", (m.boot settings).log, (m.boot settings).machine⟩ := by
  simp only [startUp, booted]

theorem startUp_of_failure {reason : Abort}
    (aborted : (m.boot settings).outcome = .error (.failure reason)) :
    m.startUp settings =
      ⟨.halted, reason.line, (m.boot settings).log.push (.halted reason),
        (m.boot settings).machine⟩ := by
  simp only [startUp, aborted]
  rfl

/-- **Booting is loading the kernel.** On a machine that provides for it, booting has the outcome of
a load from the mapped disk into the memory for the kernel; it leaves the same bytes there, and
behind them what was there before; and it logs the same behind its own first line. Starting the
machine up gives the size of the kernel and leaves the console alone exactly if booting gives that
size. Otherwise booting is aborted for a reason; then the machine halts with the line of that reason
on the console, the log has one more line, of the reason and at the level of errors, and memory is
as booting leaves it. -/
theorem boot_agrees_with_load (settings : Settings) (m : Machine) (disk destination rest : Bytes)
    (h : m.Provides settings disk destination rest) :
    let run := Kernel.load settings disk
    let boot := m.boot settings
    boot.outcome = run.outcome (.start destination) ∧
    (boot.machine.readFrom settings.kernelAddress =
        (run.after (.start destination)).destination ++ rest ∧
      (run.after (.start destination)).destination.size = destination.size) ∧
    (∃ events, (run.after (.start destination)).log = #[.kernelWanted] ++ events ∧
      boot.log = #[.bootStarted settings.diskBase settings.kernelAddress] ++ events ∧
      (Event.bootStarted settings.diskBase settings.kernelAddress).level = .info ∧
      Event.kernelWanted.level = .info) ∧
    (∀ size, boot.outcome = .ok size ↔
      m.startUp settings = ⟨.ready size, "", boot.log, boot.machine⟩) ∧
    ((∀ size, boot.outcome ≠ .ok size) → ∃ reason, boot.outcome = .error (.failure reason) ∧
      m.startUp settings =
        ⟨.halted, reason.line, boot.log.push (.halted reason), boot.machine⟩ ∧
      (Event.halted reason).level = .error ∧ (Event.halted reason).text = reason.diagnostic) := by
  intro run boot
  have alike := h.alike
  have booting := boot_eq settings m
  have same : boot.outcome = run.outcome (.start destination) :=
    (congrArg Boot.outcome booting).trans alike.outcome_eq.symm
  have left := alike.after
  have size := Kernel.size_after_load settings disk (.start destination)
  refine ⟨same, ⟨?_, size⟩, ?_, ?_, ?_⟩
  · rw [show boot.machine = _ from congrArg Boot.machine booting, readFrom_write]
    · exact left.destination
    · rw [left.destination, h.destination_mapped, Array.size_append, Array.size_append, size]
      rfl
  · obtain ⟨events, logged, logged'⟩ := left.logs
    exact ⟨events, logged, (congrArg Boot.log booting).trans logged', rfl, rfl⟩
  · intro size
    refine ⟨startUp_of_ok, ?_⟩
    intro ready
    cases booted : boot.outcome with
    | ok size' =>
      rw [startUp_of_ok booted] at ready
      cases ready
      rfl
    | error stop =>
      cases stop with
      | failure reason =>
        rw [startUp_of_failure booted] at ready
        cases ready
      | fault cause => exact absurd (eq_error_of_outcome (same.symm.trans booted)) Kernel.load_ne_fault
  · intro notLoaded
    cases booted : boot.outcome with
    | ok size' => exact absurd booted (notLoaded size')
    | error stop =>
      cases stop with
      | failure reason => exact ⟨reason, rfl, startUp_of_failure booted, rfl, rfl⟩
      | fault cause => exact absurd (eq_error_of_outcome (same.symm.trans booted)) Kernel.load_ne_fault

/-- There is room for the kernel if there is for the one entry that its path denotes. -/
theorem room_of_resolved {settings : Settings} {disk : Bytes} {v : Volume} {length : Nat}
    (size : UInt32) (opened : Kernel.volumeOn settings disk = .ok v)
    (found : (v.resolve settings.kernelPath).map (·.size) = .ok size) (fits : size.toNat ≤ length) :
    ∀ v' entry, Kernel.volumeOn settings disk = .ok v' →
      v'.resolve settings.kernelPath = .ok entry → entry.size.toNat ≤ length := by
  intro v' entry opened' found'
  cases opened.symm.trans opened'
  rw [found'] at found
  cases found
  exact fits

/-- A machine with a disk, and with four bytes for the kernel and one byte more. -/
def sampleMachineWith (disk : Bytes) : Machine where
  regions := [⟨0x100, disk⟩, ⟨0x1000, #[9, 9, 9, 9, 8]⟩]

/-- A machine with the sample disk. -/
def sampleMachine : Machine :=
  sampleMachineWith Kernel.sampleDisk

/-- The sample disk with the second cluster of the kernel marked bad. -/
def badDisk : Bytes :=
  Kernel.sampleDisk.overwrite 32 #[0xF7, 0xFF]

/-- Settings for the sample machine. -/
def sampleMachineSettings : Settings :=
  { Kernel.sampleDiskSettings with diskBase := 0x100, diskSize := 72, kernelAddress := 0x1000 }

/-- The volume on the sample disk. -/
def sampleMachineVolume : Volume where
  image := Kernel.sampleDisk.extract 2 72
  parameters := ⟨2, 1, 13, 1, 1, 0, 0, 4⟩
  clusterSize_ne_zero := by decide

/-- The sample machine loads a kernel of three bytes and is ready. With the bad disk it halts once
the bytes of the first cluster are in memory: the line of the abort is on the console, and it is the
last one of the log, at the level of errors. -/
theorem boot_sampleMachine :
    (sampleMachine.Provides sampleMachineSettings Kernel.sampleDisk #[9, 9, 9, 9] #[8] ∧
    (sampleMachine.boot sampleMachineSettings).outcome = .ok 3 ∧
    (sampleMachine.boot sampleMachineSettings).machine.readFrom 0x1000 = #[61, 62, 63, 9, 8] ∧
    sampleMachine.startUp sampleMachineSettings =
      ⟨.ready 3, "", (sampleMachine.boot sampleMachineSettings).log,
        (sampleMachine.boot sampleMachineSettings).machine⟩) ∧
    let halting := (sampleMachineWith badDisk).boot sampleMachineSettings
    (sampleMachineWith badDisk).Provides sampleMachineSettings badDisk #[9, 9, 9, 9] #[8] ∧
    halting.outcome = .error (.failure (.badCluster 2)) ∧
    halting.machine.readFrom 0x1000 = #[61, 62, 9, 9, 8] ∧
    (sampleMachineWith badDisk).startUp sampleMachineSettings =
      ⟨.halted, "FILE:LINE: Bad cluster 2\n", halting.log.push (.halted (.badCluster 2)),
        halting.machine⟩ ∧
    (Event.halted (.badCluster 2)).line = "ERROR FILE:LINE: Bad cluster 2" := by
  constructor
  · have opened : Kernel.volumeOn sampleMachineSettings Kernel.sampleDisk =
        .ok sampleMachineVolume := by cbv
    have provides : sampleMachine.Provides sampleMachineSettings Kernel.sampleDisk
        #[9, 9, 9, 9] #[8] :=
      { disk_mapped := by decide +kernel
        destination_mapped := by decide +kernel
        apart := by decide
        room := room_of_resolved 3 opened (by decide +kernel) (by decide) }
    have loaded : (Kernel.load sampleMachineSettings Kernel.sampleDisk).outcome
        (.start #[9, 9, 9, 9]) = .ok 3 := by decide +kernel
    have left : ((Kernel.load sampleMachineSettings Kernel.sampleDisk).after
        (.start #[9, 9, 9, 9])).destination = #[61, 62, 63, 9] := by decide +kernel
    obtain ⟨outcome, ⟨memory, -⟩, -, ready, -⟩ :=
      boot_agrees_with_load sampleMachineSettings sampleMachine Kernel.sampleDisk _ _ provides
    have booted := outcome.trans loaded
    refine ⟨provides, booted, ?_, (ready 3).mp booted⟩
    rw [left] at memory
    exact memory
  · intro halting
    have opened : Kernel.volumeOn sampleMachineSettings badDisk =
        .ok (sampleMachineVolume.onImage (badDisk.extract 2 72)) := by cbv
    have provides : (sampleMachineWith badDisk).Provides sampleMachineSettings badDisk
        #[9, 9, 9, 9] #[8] :=
      { disk_mapped := by decide +kernel
        destination_mapped := by decide +kernel
        apart := by decide
        room := room_of_resolved 3 opened (by decide +kernel) (by decide) }
    have broken : (Kernel.load sampleMachineSettings badDisk).outcome
        (.start #[9, 9, 9, 9]) = .error (.failure (.badCluster 2)) := by decide +kernel
    have left : ((Kernel.load sampleMachineSettings badDisk).after
        (.start #[9, 9, 9, 9])).destination = #[61, 62, 9, 9] := by decide +kernel
    obtain ⟨outcome, ⟨memory, -⟩, -, -, halts⟩ :=
      boot_agrees_with_load sampleMachineSettings (sampleMachineWith badDisk) badDisk _ _ provides
    have aborted := outcome.trans broken
    rw [left] at memory
    have notLoaded : ∀ size, ((sampleMachineWith badDisk).boot sampleMachineSettings).outcome ≠
        .ok size := by
      intro size loaded
      cases aborted.symm.trans loaded
    obtain ⟨reason, same, halted, -⟩ := halts notLoaded
    cases aborted.symm.trans same
    exact ⟨provides, aborted, memory, halted, by decide +kernel⟩

end Machine

end BootDisk
