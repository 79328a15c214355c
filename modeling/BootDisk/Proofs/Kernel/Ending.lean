import BootDisk.Proofs.Boot
import BootDisk.Proofs.Kernel.Failure

/-!
# How a load of the kernel ends

Of the log of a load all is known but details: every event that is told on the way is one, and at
most one line comes behind, which tells how the load ended (`Ends`). Together with the reasons of a
failure this settles what a load comes to, what it leaves in the destination and what it says
(`load_ends_by_stage`).
-/

namespace BootDisk

open Loader

namespace Event

/-- An event that details what is looked at on the way. -/
def IsDetail (event : Event) : Prop :=
  event.level = .debug ∨ event.level = .trace

/-- The line of an event starts with a text. -/
def Says (event : Event) (lead : String) : Prop :=
  lead.toList <+: event.line.toList

/-- A line starts with the name of its level, and with no other. -/
theorem says_level_iff {event : Event} (level : Level) :
    event.Says (level.name ++ " ") ↔ event.level = level := by
  rw [Says, line, String.toList_append, String.toList_append]
  constructor
  · intro lead
    generalize event.level = here at lead
    -- No level's name starts another's line.
    cases here <;> cases level <;> first | rfl | exact absurd lead (by simp [Level.name])
  · rintro rfl
    rw [String.toList_append]
    exact List.prefix_append _ _

theorem line_kernelLoaded (path : String) (size : UInt32) :
    (kernelLoaded path size).line =
      "INFO Loaded " ++ (path ++ (" (" ++ (toString size.toNat ++ " bytes)"))) := by
  have start : "INFO" ++ " " ++ "Loaded " = "INFO Loaded " := by decide
  show "INFO" ++ " " ++ ("Loaded " ++ path ++ " (" ++ toString size.toNat ++ " bytes)") = _
  rw [← start]
  simp only [String.append_assoc]

theorem line_kernelWanted : kernelWanted.line = "INFO Loading kernel" ++ " ..." := by decide

theorem line_bootStarted (disk kernel : UInt64) :
    (bootStarted disk kernel).line =
      "INFO Loading kernel" ++ (" from disk at " ++ (Hexadecimal.number disk.toNat ++
        (" to " ++ (Hexadecimal.number kernel.toNat ++ " ...")))) := by
  have start : "INFO" ++ " " ++ "Loading kernel from disk at " =
      "INFO Loading kernel" ++ " from disk at " := by decide
  show "INFO" ++ " " ++ ("Loading kernel from disk at " ++ Hexadecimal.number disk.toNat
      ++ " to " ++ Hexadecimal.number kernel.toNat ++ " ...") = _
  simp only [← String.append_assoc, start]

/-- Who says that the kernel is being loaded does not say that it was. -/
theorem not_says_loaded_of_line {event : Event} {rest : String}
    (loading : event.line = "INFO Loading kernel" ++ rest) : ¬ event.Says "INFO Loaded " := by
  intro lead
  rw [Says, loading, String.toList_append] at lead
  exact absurd (List.prefix_of_prefix_length_le lead (List.prefix_append _ _) (by decide))
    (by decide)

/-- The line on a loaded kernel is told from all others by its start. -/
theorem says_loaded_iff {event : Event} :
    event.Says "INFO Loaded " ↔ ∃ path size, event = .kernelLoaded path size := by
  constructor
  · intro lead
    have isInfo : event.level = .info :=
      (says_level_iff .info).mp (List.IsPrefix.trans (by decide) lead)
    cases event with
    | kernelLoaded path size => exact ⟨path, size, rfl⟩
    | kernelWanted => exact absurd lead (not_says_loaded_of_line line_kernelWanted)
    | bootStarted disk kernel =>
      exact absurd lead (not_says_loaded_of_line (line_bootStarted disk kernel))
    | _ => cases isInfo
  · rintro ⟨path, size, rfl⟩
    rw [Says, line_kernelLoaded, String.toList_append]
    exact List.prefix_append _ _

theorem says_error_iff {event : Event} : event.Says "ERROR " ↔ event.level = .error :=
  says_level_iff .error

theorem IsDetail.not_says_error {event : Event} (h : event.IsDetail) : ¬ event.Says "ERROR " := by
  intro lead
  have isError := says_error_iff.mp lead
  rcases h with same | same <;> cases isError.symm.trans same

theorem IsDetail.not_says_loaded {event : Event} (h : event.IsDetail) :
    ¬ event.Says "INFO Loaded " := by
  intro lead
  obtain ⟨path, size, rfl⟩ := says_loaded_iff.mp lead
  rcases h with same | same <;> cases same

end Event

namespace Kernel

variable {settings : Settings} {disk : Bytes} {v : Volume} {w : Workspace}

/-- How a load ends, and what its log says by then. All it tells before its last line are
details. -/
inductive Ends (settings : Settings) (before : Array Event) :
    Except (Stop Abort) UInt32 → Array Event → Prop where
  | loaded (details : Array Event) (only : ∀ event ∈ details, event.IsDetail) (size : UInt32) :
    Ends settings before (.ok size)
      ((before.push .kernelWanted ++ details).push (.kernelLoaded settings.kernelPath size))
  | missing (details : Array Event) (only : ∀ event ∈ details, event.IsDetail)
    (cause : LoadError) :
    Ends settings before (.error (.failure (.fileNotLoaded settings.kernelPath)))
      ((before.push .kernelWanted ++ details).push (.kernelMissing settings.kernelPath cause))
  | aborted (details : Array Event) (only : ∀ event ∈ details, event.IsDetail) (reason : Abort)
    (other : ∀ path, reason ≠ .fileNotLoaded path) :
    Ends settings before (.error (.failure reason)) (before.push .kernelWanted ++ details)

theorem isDetail_of_mem_openingEvents :
    ∀ event ∈ openingEvents settings disk, event.IsDetail := by
  intro event member
  rcases Array.mem_append.mp member with searching | opening
  · unfold Partition.searchEvents at searching
    split at searching
    · exact absurd searching (Array.not_mem_empty event)
    · obtain ⟨sector, -, rfl⟩ := Option.map_eq_some_iff.mp (Option.mem_toArray.mp searching)
      exact .inl rfl
  · obtain ⟨v, -, rfl⟩ := Option.map_eq_some_iff.mp (Option.mem_toArray.mp opening)
    exact .inl rfl

/-- Until the kernel is looked up, and while its clusters are visited, only details are told. -/
theorem log_looked (settings : Settings) (disk : Bytes) (v : Volume) (w : Workspace) :
    ∃ details : Array Event, (∀ event ∈ details, event.IsDetail) ∧
      (looked settings disk v w).log = w.log.push .kernelWanted ++ details := by
  refine ⟨_, ?_, (v.log_searched settings.kernelPath (opened settings disk w)).trans
    (Array.append_assoc ..)⟩
  intro event member
  rcases Array.mem_append.mp member with opening | found
  · exact isDetail_of_mem_openingEvents event opening
  · obtain ⟨entry, -, rfl⟩ := Option.map_eq_some_iff.mp (Option.mem_toArray.mp found)
    exact .inl rfl

theorem log_read_looked (settings : Settings) (disk : Bytes) (v : Volume) (entry : DirectoryEntry)
    (w : Workspace) :
    ∃ details : Array Event, (∀ event ∈ details, event.IsDetail) ∧
      ((v.read .strict w.destination.size entry.cluster.toUInt32 entry.size).after
        (looked settings disk v w)).log = w.log.push .kernelWanted ++ details := by
  obtain ⟨details, only, told⟩ := log_looked settings disk v w
  obtain ⟨visits, visited⟩ := Volume.log_after_read (v := v) .strict entry.cluster.toUInt32
    entry.size (Nat.le_of_eq (congrArg Array.size
      (destination_looked settings disk v w).symm))
  refine ⟨_, ?_, visited.trans ((congrArg (· ++ _) told).trans (Array.append_assoc ..))⟩
  intro event member
  rcases Array.mem_append.mp member with early | late
  · exact only event early
  · obtain ⟨visit, -, rfl⟩ := Array.mem_map.mp late
    exact .inr rfl

theorem load_ends (settings : Settings) (disk : Bytes) (w : Workspace) :
    Ends settings w.log ((load settings disk).outcome w) ((load settings disk).after w).log := by
  cases opens : volumeOn settings disk with
  | error reason =>
    rw [outcome_of_error (load_of_no_volume opens), after_of_error (load_of_no_volume opens)]
    refine .aborted _ isDetail_of_mem_openingEvents reason ?_
    rintro path rfl
    cases ofOpening_of_volumeOn opens
  | ok v =>
    rcases v.resolve_cases settings.kernelPath with
      ⟨cause, isAbsence, absent⟩ | ⟨reason, broken⟩ | ⟨entry, found⟩
    · obtain ⟨details, only, told⟩ := log_looked settings disk v w
      have loaded := load_of_absent (w := w) opens absent isAbsence
      rw [outcome_of_error loaded, after_of_error loaded, Workspace.logged, told]
      exact .missing details only cause
    · obtain ⟨details, only, told⟩ := log_looked settings disk v w
      have loaded := load_of_abort (w := w) opens broken
      rw [outcome_of_error loaded, after_of_error loaded, told]
      refine .aborted details only reason ?_
      rintro path rfl
      cases (Volume.resolve_eq_abort_iff.mp broken).2.2
    · obtain ⟨details, only, told⟩ := log_read_looked settings disk v entry w
      rcases load_of_entry opens found w with
        ⟨size, w', ended, loaded⟩ | ⟨reason, w', ended, loaded⟩
      · rw [after_of_ok ended] at told
        rw [outcome_of_ok loaded, after_of_ok loaded, Workspace.logged, told]
        exact .loaded details only size
      · rw [after_of_error ended] at told
        rw [outcome_of_error loaded, after_of_error loaded, told]
        rw [← destination_looked settings disk v w] at ended
        exact .aborted details only reason fun path => ne_fileNotLoaded_of_read ended

/-- What is told before the last line neither says that the kernel was loaded nor that something is
wrong. -/
theorem quiet_of_details {details : Array Event} (only : ∀ event ∈ details, event.IsDetail) :
    ∀ event ∈ #[Event.kernelWanted] ++ details,
      ¬ event.Says "INFO Loaded " ∧ ¬ event.Says "ERROR " := by
  intro event member
  rcases Array.mem_append.mp member with first | detail
  · cases Array.mem_singleton.mp first
    exact ⟨Event.not_says_loaded_of_line Event.line_kernelWanted,
      fun lead => by cases Event.says_error_iff.mp lead⟩
  · exact ⟨(only event detail).not_says_loaded, (only event detail).not_says_error⟩

/-- The last line of a load tells how it ended, and no line before it does. -/
theorem Ends.exists_told {before log : Array Event} {outcome : Except (Stop Abort) UInt32}
    (h : Ends settings before outcome log) :
    ∃ told : Array Event, log = before ++ told ∧
      ((∃ event, told.back? = some event ∧ event.Says "INFO Loaded ") ↔
        ∃ size, outcome = .ok size) ∧
      (∀ size, outcome = .ok size →
        told.back? = some (.kernelLoaded settings.kernelPath size)) ∧
      ((∃ event ∈ told, event.Says "ERROR ") ↔
        ∃ path, outcome = .error (.failure (.fileNotLoaded path))) ∧
      (∀ path, outcome = .error (.failure (.fileNotLoaded path)) → path = settings.kernelPath) ∧
      ¬ ((∃ event ∈ told, event.Says "INFO Loaded ") ∧ ∃ event ∈ told, event.Says "ERROR ") := by
  cases h with
  | loaded details only size =>
    have quiet := quiet_of_details only
    have noError : ¬ ∃ event ∈ (#[Event.kernelWanted] ++ details).push
        (.kernelLoaded settings.kernelPath size), event.Says "ERROR " := by
      rintro ⟨event, member, lead⟩
      rcases Array.mem_push.mp member with early | rfl
      · exact (quiet event early).2 lead
      · cases Event.says_error_iff.mp lead
    refine ⟨(#[Event.kernelWanted] ++ details).push (.kernelLoaded settings.kernelPath size), ?_, ?_, ?_,
      ?_, nofun, fun both => noError both.2⟩
    · rw [Array.append_push, ← Array.append_assoc, ← Array.push_eq_append]
    · refine ⟨fun _ => ⟨size, rfl⟩, fun _ => ⟨_, Array.back?_push, ?_⟩⟩
      exact Event.says_loaded_iff.mpr ⟨_, _, rfl⟩
    · rintro size' same
      cases same
      exact Array.back?_push
    · exact ⟨fun wrong => absurd wrong noError, nofun⟩
  | missing details only cause =>
    have quiet := quiet_of_details only
    have notLoaded : ¬ ∃ event ∈ (#[Event.kernelWanted] ++ details).push
        (.kernelMissing settings.kernelPath cause), event.Says "INFO Loaded " := by
      rintro ⟨event, member, lead⟩
      rcases Array.mem_push.mp member with early | rfl
      · exact (quiet event early).1 lead
      · obtain ⟨path, size, same⟩ := Event.says_loaded_iff.mp lead
        cases same
    refine ⟨(#[Event.kernelWanted] ++ details).push (.kernelMissing settings.kernelPath cause), ?_, ?_,
      nofun, ?_, ?_, fun both => notLoaded both.1⟩
    · rw [Array.append_push, ← Array.append_assoc, ← Array.push_eq_append]
    · refine ⟨?_, nofun⟩
      rintro ⟨event, last, lead⟩
      exact absurd ⟨event, Array.mem_of_back? last, lead⟩ notLoaded
    · refine ⟨fun _ => ⟨_, rfl⟩, fun _ => ⟨_, Array.mem_push_self, ?_⟩⟩
      exact Event.says_error_iff.mpr rfl
    · rintro path same
      cases same
      rfl
  | aborted details only reason other =>
    have quiet := quiet_of_details only
    refine ⟨#[.kernelWanted] ++ details, ?_, ?_, nofun, ?_, ?_, ?_⟩
    · rw [← Array.append_assoc, ← Array.push_eq_append]
    · refine ⟨?_, nofun⟩
      rintro ⟨event, last, lead⟩
      exact absurd lead (quiet event (Array.mem_of_back? last)).1
    · constructor
      · rintro ⟨event, member, lead⟩
        exact absurd lead (quiet event member).2
      · rintro ⟨path, same⟩
        cases same
        exact absurd rfl (other path)
    · rintro path same
      cases same
      exact absurd rfl (other path)
    · rintro ⟨⟨event, member, lead⟩, -⟩
      exact (quiet event member).1 lead

/-- **How a load of the kernel ends.** The first stage that fails settles the outcome: locating the
partition, opening the volume, reaching the root directory, reading the chain of the first listed
record that carries the name. In between the kernel is absent exactly if its path is no name, or if
no listed record of a directory that is there carries it. What a load that fails leaves in the
destination is what was there before, unless a chain broke off behind its first cluster, and then
whole clusters were copied; and a cluster that does not exist has a number below two. The log ends
with a line that says so exactly if the kernel was loaded, and has a line on an error exactly if it
is absent. -/
theorem load_ends_by_stage (settings : Settings) (disk : Bytes) (w : Workspace) :
    (∀ stop, (Partition.ofDisk disk settings.partition).outcome w = .error stop →
      (load settings disk).outcome w = .error stop) ∧
    (∀ partition stop, (Partition.ofDisk disk settings.partition).outcome w = .ok partition →
      (Volume.openImage partition.image settings).outcome w = .error stop →
        (load settings disk).outcome w = .error stop) ∧
    (∀ v, Opens settings disk w v →
      ((load settings disk).outcome w = .error (.failure (.fileNotLoaded settings.kernelPath)) ↔
        ShortName.ofPath? settings.kernelPath = none ∨
          v.rootEnd ≤ v.image.size ∧ ∃ name, ShortName.ofPath? settings.kernelPath = some name ∧
            ∀ i < v.recordCount, v.lists i → ¬ v.Carries i name) ∧
      ∀ name, ShortName.ofPath? settings.kernelPath = some name →
        (v.image.size < v.rootEnd → (load settings disk).outcome w =
          .error (.failure (.outOfBounds v.layout.rootOffset.toNat v.layout.rootSize.toNat))) ∧
        (v.rootEnd ≤ v.image.size → ∀ i < v.recordCount, v.lists i → v.Carries i name →
          (∀ j < i, v.lists j → ¬ v.Carries j name) →
            (load settings disk).outcome w =
                (v.read .strict w.destination.size (v.record i).cluster.toUInt32
                  (v.record i).size).outcome w ∧
              ((load settings disk).after w).destination =
                ((v.read .strict w.destination.size (v.record i).cluster.toUInt32
                  (v.record i).size).after w).destination)) ∧
    (∀ stop w', load settings disk w = .error stop w' →
      ∃ reason, stop = .failure reason ∧ (∀ n, reason = .invalidCluster n → n < 2) ∧
        ((w'.destination = w.destination ∧ w'.copies = w.copies) ∨
          ∃ v entry k, Opens settings disk w v ∧
            (v.lookup .strict settings.kernelPath).outcome w = .ok (some entry) ∧
              1 ≤ k ∧ Volume.OfChain reason ∧ v.BrokenOff entry k reason w w')) ∧
    ∃ told : Array Event, ((load settings disk).after w).log = w.log ++ told ∧
      ((∃ event, told.back? = some event ∧ event.Says "INFO Loaded ") ↔
        ∃ size, (load settings disk).outcome w = .ok size) ∧
      (∀ size, (load settings disk).outcome w = .ok size →
        told.back? = some (.kernelLoaded settings.kernelPath size)) ∧
      ((∃ event ∈ told, event.Says "ERROR ") ↔
        ∃ path, (load settings disk).outcome w = .error (.failure (.fileNotLoaded path))) ∧
      (∀ path, (load settings disk).outcome w = .error (.failure (.fileNotLoaded path)) →
        path = settings.kernelPath) ∧
      ¬ ((∃ event ∈ told, event.Says "INFO Loaded ") ∧ ∃ event ∈ told, event.Says "ERROR ") := by
  refine ⟨?_, ?_, ?_, ?_, (load_ends settings disk w).exists_told⟩
  · intro stop lost
    obtain ⟨reason, noPartition, rfl⟩ :=
      mapError_eq_error_iff.mp ((Partition.outcome_ofDisk ..).symm.trans lost)
    exact outcome_of_error (load_of_no_volume (volumeOn_of_no_partition noPartition))
  · intro partition stop found closed
    have located := mapError_eq_ok_iff.mp ((Partition.outcome_ofDisk ..).symm.trans found)
    obtain ⟨reason, noVolume, rfl⟩ :=
      mapError_eq_error_iff.mp ((Volume.outcome_openImage ..).symm.trans closed)
    exact outcome_of_error (load_of_no_volume ((volumeOn_of_partition located).trans noVolume))
  · intro v opens
    have opens := opens_iff.mp opens
    refine ⟨(load_eq_fileNotLoaded_iff opens).trans Volume.resolve_absent_iff, ?_⟩
    intro name isName
    constructor
    · intro outside
      have broken : v.resolve settings.kernelPath = .error (.abort _) :=
        Volume.resolve_eq_abort_iff.mpr ⟨⟨name, isName⟩, outside, rfl⟩
      exact outcome_of_error (load_of_abort opens broken)
    · intro inside i before listed carries first
      have found := (Volume.resolve_eq_ok_iff isName inside).mpr
        ⟨i, before, listed, carries, first, rfl⟩
      exact outcome_load_of_entry opens found w
  · intro stop w' failed
    cases stop with
    | fault cause => exact absurd failed load_ne_fault
    | failure reason =>
      obtain ⟨small, kept | ⟨v, entry, k, opens, found, copied, ofChain, broken⟩⟩ :=
        load_failure failed
      · exact ⟨reason, rfl, small, .inl kept⟩
      · exact ⟨reason, rfl, small, .inr ⟨v, entry, k, opens_iff.mpr opens,
          Volume.lookup_eq_some_iff.mpr found, copied, ofChain, broken⟩⟩

/-- The sample disk with the second cluster of the kernel marked bad. -/
def sampleDiskWithBadCluster : Bytes :=
  sampleDisk.setIfInBounds 32 0xF7

/-- A disk without its partition, one on which the partition is empty, one that ends in its root
directory, one without the kernel, one with it, and one on which its chain breaks off. -/
theorem load_ends_by_stage_samples :
    (load { sampleDiskSettings with partition := .atOffset 73 } sampleDisk).outcome (.start #[]) =
      .error (.failure (.outOfBounds 73 0)) ∧
    (load sampleDiskSettings (sampleDisk.extract 0 2)).outcome (.start #[]) =
      .error (.failure (.outOfBounds 24 2)) ∧
    (load sampleDiskSettings (sampleDisk.extract 0 40)).outcome (.start #[]) =
      .error (.failure (.outOfBounds 34 32)) ∧
    (load { sampleDiskSettings with kernelPath := "A.C" } sampleDisk).outcome (.start #[]) =
      .error (.failure (.fileNotLoaded "A.C")) ∧
    (load sampleDiskSettings sampleDisk).outcome (.start (Array.replicate 4 9)) =
      (Machine.sampleMachineVolume.read .strict 4 3 3).outcome (.start (Array.replicate 4 9)) ∧
    ∃ (w' : Workspace) (v : Volume) (entry : DirectoryEntry) (k : Nat),
      load sampleDiskSettings sampleDiskWithBadCluster (.start (Array.replicate 4 9)) =
        .error (.failure (.badCluster 2)) w' ∧ w'.destination = #[61, 62, 9, 9] ∧ 1 ≤ k ∧
      v.BrokenOff entry k (.badCluster 2) (.start (Array.replicate 4 9)) w' := by
  have isName : ShortName.ofPath? sampleDiskSettings.kernelPath =
      some ⟨ShortName.pad 8 [0x41], ShortName.pad 3 [0x42]⟩ := by decide +kernel
  refine ⟨?_, ?_, ?_, ?_, ?_, ?_⟩
  · exact (load_ends_by_stage { sampleDiskSettings with partition := .atOffset 73 } sampleDisk
      (.start #[])).1 _ (by decide +kernel)
  · have unsigned : Volume.ofImage #[] sampleDiskSettings = .error (.outOfBounds 24 2) :=
      Volume.ofImage_of_no_signature (by decide +kernel)
    exact (load_ends_by_stage sampleDiskSettings (sampleDisk.extract 0 2) (.start #[])).2.1 ⟨2, #[]⟩ _
      (by decide +kernel) (outcome_of_error (Volume.openImage_of_error unsigned))
  · have opens : Opens sampleDiskSettings (sampleDisk.extract 0 40) (.start #[])
        (Machine.sampleMachineVolume.onImage (sampleDisk.extract 2 40)) := opens_iff.mpr (by cbv)
    exact (((load_ends_by_stage sampleDiskSettings (sampleDisk.extract 0 40)
      (.start #[])).2.2.1 _ opens).2 _ isName).1 (by decide +kernel)
  · have opens : Opens { sampleDiskSettings with kernelPath := "A.C" } sampleDisk (.start #[])
        Machine.sampleMachineVolume := opens_iff.mpr (by cbv)
    have isOther : ShortName.ofPath? "A.C" =
        some ⟨ShortName.pad 8 [0x41], ShortName.pad 3 [0x43]⟩ := by decide +kernel
    refine ((load_ends_by_stage { sampleDiskSettings with kernelPath := "A.C" } sampleDisk
      (.start #[])).2.2.1 _ opens).1.mpr (.inr ⟨by decide +kernel, _, isOther, ?_⟩)
    intro i before _ carries
    have here : i = 0 := Nat.lt_one_iff.mp before
    subst here
    exact absurd (carries.extension 0 (by decide)) (by decide +kernel)
  · have opens : Opens sampleDiskSettings sampleDisk (.start (Array.replicate 4 9))
        Machine.sampleMachineVolume := opens_iff.mpr (by cbv)
    have carries : Machine.sampleMachineVolume.Carries 0
        ⟨ShortName.pad 8 [0x41], ShortName.pad 3 [0x42]⟩ := ⟨by decide +kernel, by decide +kernel⟩
    exact ((((load_ends_by_stage sampleDiskSettings sampleDisk
      (.start (Array.replicate 4 9))).2.2.1 _ opens).2 _ isName).2 (by decide +kernel) 0 (by decide)
      (by decide +kernel) carries
      fun j before => absurd before (Nat.not_lt_zero j)).1
  · have failed : (load sampleDiskSettings sampleDiskWithBadCluster).outcome
        (.start (Array.replicate 4 9)) = .error (.failure (.badCluster 2)) := by decide +kernel
    have left : ((load sampleDiskSettings sampleDiskWithBadCluster).after
        (.start (Array.replicate 4 9))).destination = #[61, 62, 9, 9] := by decide +kernel
    obtain ⟨reason, same, -, ⟨kept, -⟩ | ⟨v, entry, k, -, -, copied, -, broken⟩⟩ :=
      (load_ends_by_stage sampleDiskSettings sampleDiskWithBadCluster
        (.start (Array.replicate 4 9))).2.2.2.1 _ _ (eq_error_of_outcome failed)
    · exact absurd (left.symm.trans kept) (by decide)
    · cases same
      exact ⟨_, v, entry, k, eq_error_of_outcome failed, left, copied, broken⟩

end Kernel

end BootDisk
