import BootDisk.Proofs.Boot
import Mathlib.Tactic.IntervalCases

/-!
# Where the partition starts

A partition is what the disk holds from its start on, and the start decides nothing else. A load
from a partition that the boot record lists goes like one from the same offset, but for the line
that tells which sector was listed (`loadAt_alike`). A load does not see what stands in front of the
partition either (`loadAt_append`).
-/

namespace BootDisk

open Loader

/-- The bytes of a window are those between its ends. -/
theorem Bytes.toArray_of_window? {b : Bytes} {offset length : Nat} {w : Vector UInt8 length}
    (h : b.window? offset length = some w) : w.toArray = b.extract offset (offset + length) := by
  unfold window? at h
  split at h
  · cases h
    rfl
  · cases h

namespace Partition

/-- The number in the boot record for the first sector of the first partition. -/
def recordedSector (disk : Bytes) : Nat :=
  LittleEndian.decode (disk.extract 0x1C6 0x1CA).toList

variable {disk : Bytes} {start : UInt64} {reason : Abort} {w : Workspace}

theorem recordedSector_lt (complete : 0x1CA ≤ disk.size) : recordedSector disk < 0x100000000 := by
  have four : (disk.extract 0x1C6 0x1CA).toList.length = 4 := by
    rw [Array.length_toList, Array.size_extract]
    omega
  have fits := LittleEndian.decode_lt (disk.extract 0x1C6 0x1CA).toList
  rwa [four] at fits

/-- The first sector by the boot record: the record has to be there, and sector zero is none. -/
theorem firstSector_eq (disk : Bytes) :
    firstSector disk =
      if disk.size < 0x1CA then .error (.outOfBounds 0x1C6 4)
      else if recordedSector disk = 0 then .error .noPartition
      else .ok (UInt32.ofNat (recordedSector disk)) := by
  by_cases short : disk.size < 0x1CA
  · rw [if_pos short, firstSector, Bytes.window?_eq_none_iff.mpr short]
    rfl
  · obtain ⟨raw, found⟩ := Option.isSome_iff_exists.mp (Bytes.window?_isSome_iff.mpr
      (show sectorOffset + 4 ≤ disk.size from Nat.not_lt.mp short))
    have bytes : disk.extract 0x1C6 0x1CA = raw.toArray := (Bytes.toArray_of_window? found).symm
    have four : raw.toArray.toList = [raw[0], raw[1], raw[2], raw[3]] := by
      apply List.ext_getElem
      · rw [Array.length_toList, raw.size_toArray]
        rfl
      · intro i before _
        rw [Array.length_toList, raw.size_toArray] at before
        interval_cases i <;> rfl
    have sector : LittleEndian.word32 raw[0] raw[1] raw[2] raw[3] =
        UInt32.ofNat (recordedSector disk) := by
      rw [recordedSector, bytes, four]
      rfl
    have none : UInt32.ofNat (recordedSector disk) = 0 ↔ recordedSector disk = 0 := by
      rw [← UInt32.toNat_inj,
        UInt32.toNat_ofNat_of_lt' (recordedSector_lt (Nat.not_lt.mp short))]
      rfl
    simp only [if_neg short, firstSector, found, sector, none]

/-- The partition at an offset is what stands behind that many bytes of the disk. -/
theorem outcome_atOffset_eq_ok_iff {p : Partition} :
    (ofDisk disk (.atOffset start)).outcome w = .ok p ↔
      p.start = start ∧ ∃ front : Bytes, front.size = start.toNat ∧ disk = front ++ p.image := by
  rw [outcome_ofDisk, mapError_eq_ok_iff]
  show startingAt disk start = .ok p ↔ _
  rw [startingAt]
  constructor
  · intro located
    split at located
    · rename_i inside
      cases located
      refine ⟨rfl, disk.extract 0 start.toNat, ?_, ?_⟩
      · rw [Array.size_extract]
        omega
      · rw [Array.extract_append_extract, Nat.zero_min, Nat.max_eq_right inside,
          Array.extract_size]
    · cases located
  · rintro ⟨rfl, front, size, rfl⟩
    rw [if_pos (by rw [Array.size_append]; omega), ← size, Array.size_append,
      Array.extract_append_right]
    simp

theorem outcome_atOffset_eq_error_iff :
    (ofDisk disk (.atOffset start)).outcome w = .error (.failure reason) ↔
      disk.size < start.toNat ∧ reason = .outOfBounds start.toNat 0 := by
  rw [outcome_ofDisk, mapError_eq_error_iff]
  show (∃ reason', startingAt disk start = .error reason' ∧ _) ↔ _
  rw [startingAt]
  constructor
  · rintro ⟨reason', lost, same⟩
    cases same
    split at lost
    · cases lost
    · rename_i outside
      cases lost
      exact ⟨Nat.not_le.mp outside, rfl⟩
  · rintro ⟨outside, rfl⟩
    exact ⟨_, if_neg (Nat.not_le.mpr outside), rfl⟩

theorem exists_outcome_atOffset_iff :
    (∃ p, (ofDisk disk (.atOffset start)).outcome w = .ok p) ↔ start.toNat ≤ disk.size := by
  constructor
  · rintro ⟨p, located⟩
    obtain ⟨-, front, size, rfl⟩ := outcome_atOffset_eq_ok_iff.mp located
    rw [Array.size_append]
    omega
  · intro inside
    refine ⟨⟨start, disk.extract start.toNat disk.size⟩, ?_⟩
    rw [outcome_ofDisk]
    show (startingAt disk start).mapError Stop.failure = _
    rw [startingAt, if_pos inside]
    rfl

/-! The boot record. -/

theorem firstSector_of_recorded (complete : 0x1CA ≤ disk.size) (some : recordedSector disk ≠ 0) :
    firstSector disk = .ok (UInt32.ofNat (recordedSector disk)) := by
  rw [firstSector_eq, if_neg (Nat.not_lt.mpr complete), if_neg some]

/-- The offset of a sector does not leave the word. -/
theorem toNat_sectorStart (complete : 0x1CA ≤ disk.size) :
    ((UInt32.ofNat (recordedSector disk)).toUInt64 * sectorLength).toNat =
      512 * recordedSector disk := by
  have fits := recordedSector_lt complete
  rw [UInt64.toNat_mul, UInt32.toNat_toUInt64, UInt32.toNat_ofNat_of_lt' fits,
    show sectorLength.toNat = 512 from rfl]
  omega

theorem outcome_bootRecord_of_sector {sector : UInt32} (found : firstSector disk = .ok sector) :
    (ofDisk disk .bootRecord).outcome w =
      (ofDisk disk (.atOffset (sector.toUInt64 * sectorLength))).outcome w := by
  rw [outcome_ofDisk, outcome_ofDisk, onDisk, startOn, found]
  rfl

theorem outcome_bootRecord_of_error (lost : firstSector disk = .error reason) :
    (ofDisk disk .bootRecord).outcome w = .error (.failure reason) := by
  rw [outcome_ofDisk, onDisk, startOn, lost]
  rfl

/-- What a boot record leads to: it is cut off, it lists no partition, or it is as good as an
offset. -/
theorem bootRecord_cases (disk : Bytes) (w : Workspace) :
    (disk.size < 0x1CA ∧
      (ofDisk disk .bootRecord).outcome w = .error (.failure (.outOfBounds 0x1C6 4))) ∨
    ((0x1CA ≤ disk.size ∧ recordedSector disk = 0) ∧
      (ofDisk disk .bootRecord).outcome w = .error (.failure .noPartition)) ∨
    (0x1CA ≤ disk.size ∧ recordedSector disk ≠ 0) ∧
      ∃ start, (ofDisk disk .bootRecord).outcome w = (ofDisk disk (.atOffset start)).outcome w := by
  rcases Nat.lt_or_ge disk.size 0x1CA with short | complete
  · refine .inl ⟨short, outcome_bootRecord_of_error ?_⟩
    rw [firstSector_eq, if_pos short]
  · by_cases none : recordedSector disk = 0
    · refine .inr (.inl ⟨⟨complete, none⟩, outcome_bootRecord_of_error ?_⟩)
      rw [firstSector_eq, if_neg (Nat.not_lt.mpr complete), if_pos none]
    · exact .inr (.inr ⟨⟨complete, none⟩, _,
        outcome_bootRecord_of_sector (firstSector_of_recorded complete none)⟩)

theorem outcome_bootRecord_eq_outOfBounds_iff :
    (ofDisk disk .bootRecord).outcome w = .error (.failure (.outOfBounds 0x1C6 4)) ↔
      disk.size < 0x1CA := by
  rcases bootRecord_cases disk w with ⟨short, ended⟩ | ⟨⟨complete, -⟩, ended⟩ |
    ⟨⟨complete, -⟩, start, same⟩
  · exact iff_of_true ended short
  · rw [ended]
    exact iff_of_false nofun (Nat.not_lt.mpr complete)
  · rw [same]
    refine iff_of_false ?_ (Nat.not_lt.mpr complete)
    -- An offset out of bounds is reported with no length.
    intro lost
    injection (outcome_atOffset_eq_error_iff.mp lost).2 with _ length
    exact absurd length (by decide)

theorem outcome_bootRecord_eq_noPartition_iff :
    (ofDisk disk .bootRecord).outcome w = .error (.failure .noPartition) ↔
      0x1CA ≤ disk.size ∧ recordedSector disk = 0 := by
  rcases bootRecord_cases disk w with ⟨short, ended⟩ | ⟨listed, ended⟩ |
    ⟨⟨complete, some⟩, start, same⟩
  · rw [ended]
    exact iff_of_false nofun fun h => Nat.not_lt.mpr h.1 short
  · exact iff_of_true ended listed
  · rw [same]
    refine iff_of_false ?_ fun h => some h.2
    intro lost
    cases (outcome_atOffset_eq_error_iff.mp lost).2

end Partition

namespace Volume

variable {v : Volume} {memory : Memory} {front front' : Array Event} {w w' : Workspace}

/-- Loads into one destination end alike, whatever was logged before. -/
theorem load_alike (v : Volume) (memory : Memory) (path : String)
    (h : Workspace.Beside #[] front front' w w') :
    Alike (Workspace.Beside #[] front front') (v.load memory path w) (v.load memory path w') := by
  have searched := h.searched v path
  have size : w'.destination.size = w.destination.size := by
    rw [h.destination, Array.append_empty]
  cases resolved : v.resolve path with
  | error cause =>
    have missing : v.load memory path w = _ := loadInto_of_missing resolved
    have missing' : v.load memory path w' = _ := loadInto_of_missing resolved
    rw [missing, missing']
    exact .error (.failure cause) searched
  | ok entry =>
    rw [load_of_resolve resolved, load_of_resolve resolved, size]
    apply Alike.restate
    rcases Nat.lt_or_ge w.destination.size entry.size.toNat with small | fits
    · -- Without room nothing is read, in either.
      cases isCluster : Cluster.ofIndex entry.cluster.toUInt32.toNat with
      | error reason =>
        rw [read_of_no_cluster isCluster, read_of_no_cluster isCluster]
        exact .error (.failure reason) searched
      | ok cluster =>
        rw [read_of_no_room isCluster small, read_of_no_room isCluster small]
        exact .error _ searched
    · apply read_alike searched _ fits _ fits
      · rw [destination_searched, size]
      · rw [destination_searched]

end Volume

namespace Kernel

variable {settings : Settings} {disk image : Bytes} {start : UInt64} {front front' : Array Event}
  {w w' : Workspace}

theorem loadImage_alike (settings : Settings) (image : Bytes)
    (h : Workspace.Beside #[] front front' w w') :
    Alike (Workspace.Beside #[] front front') (loadImage settings image w)
      (loadImage settings image w') := by
  cases opened : Volume.ofImage image settings with
  | error reason =>
    rw [loadImage_of_no_volume opened, loadImage_of_no_volume opened]
    exact .error (.failure reason) h
  | ok v =>
    rw [loadImage_of_volume opened, loadImage_of_volume opened]
    exact settle_alike (fun event w₁ w₁' related => related.logged event)
      (v.load_alike .strict settings.kernelPath (h.logged _))

/-- Loads from one offset end alike, whatever was logged before. -/
theorem loadAt_alike (settings : Settings) (disk : Bytes) (start : UInt64)
    (h : Workspace.Beside #[] front front' w w') :
    Alike (Workspace.Beside #[] front front') (loadAt settings disk start w)
      (loadAt settings disk start w') := by
  rcases Nat.lt_or_ge disk.size start.toNat with outside | inside
  · rw [loadAt_of_outside outside, loadAt_of_outside outside]
    exact .error _ h
  · rw [loadAt_of_inside inside, loadAt_of_inside inside]
    exact loadImage_alike settings _ h

/-- How the partition is found does not matter any more once its offset is known. -/
theorem loadAt_partition (settings : Settings) (lookup : PartitionLookup) (disk : Bytes)
    (start : UInt64) :
    loadAt { settings with partition := lookup } disk start = loadAt settings disk start := rfl

/-- A load does not see what stands in front of the partition. -/
theorem loadAt_append (settings : Settings) {before : Bytes} (image : Bytes)
    (here : start.toNat = before.size) :
    loadAt settings (before ++ image) start w = loadAt settings image 0 w := by
  have inside : start.toNat ≤ (before ++ image).size := by
    rw [Array.size_append]
    omega
  rw [loadAt_of_inside inside, loadAt_of_inside (Nat.zero_le _), here, Array.size_append,
    Array.extract_append_right]
  simp

/-- A load from a listed partition and one from the same offset end alike, but for the line on the
listed sector. -/
theorem load_bootRecord_alike {sector : UInt32} (settings : Settings)
    (found : Partition.firstSector disk = .ok sector) (w : Workspace) :
    Alike (Workspace.Beside #[] (w.log ++ #[.kernelWanted, .partitionListed sector])
        (w.log ++ #[.kernelWanted]))
      (load { settings with partition := .bootRecord } disk w)
      (load { settings with
        partition := .atOffset (sector.toUInt64 * Partition.sectorLength) } disk w) := by
  rw [load_bootRecord_of_sector rfl found, load_atOffset rfl, loadAt_partition settings .bootRecord,
    loadAt_partition settings (.atOffset _)]
  apply loadAt_alike
  refine ⟨Array.append_empty.symm, #[], ?_, ?_⟩
  · rw [Workspace.logged_eq, Workspace.logged_eq, Workspace.told_told]
    exact Array.append_empty.symm
  · rw [Workspace.logged_eq]
    exact Array.append_empty.symm

/-- **A partition is where it starts, and nothing else of it matters.** The partition at an offset
is what stands behind that many bytes of the disk, which may be none; an offset behind the end of
the disk is out of bounds. The boot record has to be there, and its sector zero is no partition; any
other sector is as good as the offset of its first byte: the partition is the same, and loading the
kernel comes to the same and leaves the same destination, with one more line in the log, the one on
the sector. What stands in front of a partition does not matter for a load at all. -/
theorem load_moves_with_partition (settings : Settings) (disk : Bytes) (w : Workspace) :
    (∀ start : UInt64,
      ((∃ p, (Partition.ofDisk disk (.atOffset start)).outcome w = .ok p) ↔
        start.toNat ≤ disk.size) ∧
      (∀ p, (Partition.ofDisk disk (.atOffset start)).outcome w = .ok p ↔
        p.start = start ∧ ∃ front : Bytes, front.size = start.toNat ∧ disk = front ++ p.image) ∧
      ∀ reason, (Partition.ofDisk disk (.atOffset start)).outcome w = .error (.failure reason) ↔
        disk.size < start.toNat ∧ reason = .outOfBounds start.toNat 0) ∧
    ((Partition.ofDisk disk .bootRecord).outcome w = .error (.failure (.outOfBounds 0x1C6 4)) ↔
      disk.size < 0x1CA) ∧
    ((Partition.ofDisk disk .bootRecord).outcome w = .error (.failure .noPartition) ↔
      0x1CA ≤ disk.size ∧ Partition.recordedSector disk = 0) ∧
    (0x1CA ≤ disk.size → Partition.recordedSector disk ≠ 0 →
      ∃ (sector : UInt32) (start : UInt64), sector.toNat = Partition.recordedSector disk ∧
        start.toNat = 512 * Partition.recordedSector disk ∧
        (Partition.ofDisk disk .bootRecord).outcome w =
          (Partition.ofDisk disk (.atOffset start)).outcome w ∧
        (load { settings with partition := .bootRecord } disk).outcome w =
          (load { settings with partition := .atOffset start } disk).outcome w ∧
        ((load { settings with partition := .bootRecord } disk).after w).destination =
          ((load { settings with partition := .atOffset start } disk).after w).destination ∧
        ∃ events : Array Event,
          ((load { settings with partition := .bootRecord } disk).after w).log =
            w.log ++ #[.kernelWanted, .partitionListed sector] ++ events ∧
          ((load { settings with partition := .atOffset start } disk).after w).log =
            w.log ++ #[.kernelWanted] ++ events) ∧
    ∀ (before image : Bytes) (start : UInt64), start.toNat = before.size →
      load { settings with partition := .atOffset start } (before ++ image) w =
        load { settings with partition := .atOffset 0 } image w := by
  refine ⟨fun start => ⟨?_, fun p => Partition.outcome_atOffset_eq_ok_iff,
    fun reason => Partition.outcome_atOffset_eq_error_iff⟩, ?_, ?_, ?_, ?_⟩
  · exact Partition.exists_outcome_atOffset_iff
  · exact Partition.outcome_bootRecord_eq_outOfBounds_iff
  · exact Partition.outcome_bootRecord_eq_noPartition_iff
  · intro complete some
    have found := Partition.firstSector_of_recorded complete some
    have sector := Partition.recordedSector_lt complete
    have alike := load_bootRecord_alike settings found w
    have left := alike.after
    obtain ⟨events, told, told'⟩ := left.logs
    refine ⟨_, _, UInt32.toNat_ofNat_of_lt' sector, ?_, ?_, alike.outcome_eq, ?_, events, told, told'⟩
    · exact Partition.toNat_sectorStart complete
    · exact Partition.outcome_bootRecord_of_sector found
    · rw [left.destination, Array.append_empty]
  · intro before image start here
    rw [load_atOffset rfl, load_atOffset rfl, loadAt_partition settings (.atOffset start),
      loadAt_partition settings (.atOffset 0), loadAt_append settings image here]

/-- A boot record that lists sector 1. -/
def sampleBootRecord : Bytes :=
  Array.replicate 0x1C6 0 ++ #[1, 0, 0, 0] ++ Array.replicate 54 0

/-- A disk with the partition of the sample disk behind that boot record. -/
def sampleRecordedDisk : Bytes :=
  sampleBootRecord ++ sampleDisk.extract 2

theorem size_sampleBootRecord : sampleBootRecord.size = 512 := by
  simp [sampleBootRecord]

theorem recordedSector_sampleRecordedDisk : Partition.recordedSector sampleRecordedDisk = 1 := by
  rw [Partition.recordedSector, sampleRecordedDisk, Array.extract_append, size_sampleBootRecord]
  simp [sampleBootRecord, Array.extract_append, LittleEndian.decode]

/-- The kernel is loaded from the sample partition on its own, behind a boot record in the sector
that is listed there, and at the offset of that sector. -/
theorem load_moves_with_partition_sampleRecordedDisk :
    0x1CA ≤ sampleRecordedDisk.size ∧ Partition.recordedSector sampleRecordedDisk = 1 ∧
    ∃ w', w'.destination = #[61, 62, 63, 9] ∧
      load { sampleDiskSettings with partition := .atOffset 512 } sampleRecordedDisk
        (.start (Array.replicate 4 9)) = .ok 3 w' ∧
      (load { sampleDiskSettings with partition := .bootRecord } sampleRecordedDisk).outcome
        (.start (Array.replicate 4 9)) = .ok 3 ∧
      ((load { sampleDiskSettings with partition := .bootRecord } sampleRecordedDisk).after
        (.start (Array.replicate 4 9))).destination = w'.destination := by
  have complete : 0x1CA ≤ sampleRecordedDisk.size := by
    rw [sampleRecordedDisk, Array.size_append, size_sampleBootRecord]
    omega
  have recorded := recordedSector_sampleRecordedDisk
  have alone : load { sampleDiskSettings with partition := .atOffset 0 }
      (sampleDisk.extract 2) (.start (Array.replicate 4 9)) =
      .ok 3 ⟨#[61, 62, 63, 9], #[.kernelWanted, .volumeOpened ⟨2, 1, 13, 1, 1, 0, 0, 4⟩,
        .entryFound ⟨⟨#v[0x41, 0x20, 0x20, 0x20, 0x20, 0x20, 0x20, 0x20], #v[0x42, 0x20, 0x20]⟩,
          0x20, 3, 3⟩,
        .clusterVisited ⟨3, by decide⟩ 68 (.next 2), .clusterVisited ⟨2, by decide⟩ 66 .last,
        .kernelLoaded "A.B" 3], 2, #[2, 1]⟩ := by cbv
  obtain ⟨-, -, -, listed, moved⟩ := load_moves_with_partition sampleDiskSettings sampleRecordedDisk
    (.start (Array.replicate 4 9))
  have behind : load { sampleDiskSettings with partition := .atOffset 512 } sampleRecordedDisk
      (.start (Array.replicate 4 9)) = _ :=
    (moved sampleBootRecord (sampleDisk.extract 2) 512 size_sampleBootRecord.symm).trans alone
  refine ⟨complete, recorded, _, rfl, behind, ?_⟩
  obtain ⟨sector, start, -, isStart, -, sameOutcome, sameDestination, -⟩ :=
    listed complete (by rw [recorded]; decide)
  obtain rfl : start = 512 := by
    rw [← UInt64.toNat_inj, isStart, recorded]
    rfl
  exact ⟨sameOutcome.trans (outcome_of_ok behind),
    sameDestination.trans (congrArg Workspace.destination (after_of_ok behind))⟩

end Kernel

end BootDisk
