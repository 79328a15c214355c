import BootDisk.Proofs.Entries
import BootDisk.Proofs.OpenOutcome

/-!
# Why a load of the kernel fails

A load of the kernel goes through stages: the partition is located, the volume is opened, the path
is looked up, and the chain of the entry is read. Each stage has reasons of its own to end the load
(`ofOpening_of_volumeOn`, `Volume.read_entry_failure`), and an absent file ends it too
(`load_eq_fileNotLoaded_iff`). Nothing is written before the chain is read, so only a read that
breaks off behind its first cluster leaves a trace in the destination (`load_failure`).
-/

namespace BootDisk

open Loader

namespace Volume

variable {v : Volume} {memory : Memory} {path : String} {w w' : Workspace} {entry : DirectoryEntry}
  {reason : Abort}

/-- A reason that a chain can break off for. -/
inductive OfChain : Abort → Prop where
  | noCluster {index : Nat} (small : index < 2) : OfChain (.invalidCluster index)
  | badCluster (index : Nat) : OfChain (.badCluster index)
  | outside (offset length : Nat) : OfChain (.outOfBounds offset length)

theorem OfChain.small {index : Nat} (h : OfChain (.invalidCluster index)) : index < 2 := by
  cases h with
  | noCluster small => exact small

theorem ofChain_of_refusal? {c wanted : Nat} (refused : v.refusal? c wanted = some reason) :
    OfChain reason := by
  unfold refusal? at refused
  split at refused
  · cases refused
    exact .noCluster ‹_›
  · split at refused
    · cases refused
      exact .outside ..
    · split at refused
      · cases refused
        exact .badCluster ..
      · split at refused
        · cases refused
          exact .outside ..
        · cases refused

/-- A read of an entry broke off at its visit `k`. The clusters in front of that visit were copied,
each of them as a whole. -/
structure BrokenOff (v : Volume) (entry : DirectoryEntry) (k : Nat) (reason : Abort)
    (before after : Workspace) : Prop where
  fails : v.FailsAt entry.cluster.toNat entry.size.toNat k reason
  left : v.LeftAt entry.cluster.toNat k before.destination after.destination
  copies : after.copies = before.copies ++ Array.replicate k v.clusterLength

/-- A read that breaks off in front of its first copy leaves all as it was. -/
theorem BrokenOff.unchanged (h : v.BrokenOff entry 0 reason w w') :
    w'.destination = w.destination ∧ w'.copies = w.copies := by
  constructor
  · apply Array.ext_getElem?
    intro p
    exact h.left.rest p (by omega)
  · exact h.copies.trans Array.append_empty

theorem BrokenOff.of_same {k : Nat} {w₁ : Workspace} (h : v.BrokenOff entry k reason w₁ w')
    (destination : w₁.destination = w.destination) (copies : w₁.copies = w.copies) :
    v.BrokenOff entry k reason w w' :=
  ⟨h.fails, destination ▸ h.left, copies ▸ h.copies⟩

/-- Why the read of an entry fails and what it leaves. Records have sixteen bits for the first
cluster, so that only the numbers below two are none. -/
theorem read_entry_failure (memory : Memory)
    (failed : v.read memory w.destination.size entry.cluster.toUInt32 entry.size w =
      .error (.failure reason) w') :
    (w'.destination = w.destination ∧ w'.copies = w.copies ∧
      (OfChain reason ∨ ∃ needed available, reason = .destinationTooSmall needed available)) ∨
    ∃ k, v.BrokenOff entry k reason w w' := by
  have number : entry.cluster.toUInt32.toNat = entry.cluster.toNat := entry.cluster.toNat_toUInt32
  by_cases valid : 2 ≤ entry.cluster.toUInt32.toNat ∧ entry.cluster.toUInt32.toNat ≤ 65535
  · obtain ⟨cluster, isCluster⟩ := Cluster.exists_ofIndex_iff.mpr valid
    rcases Nat.lt_or_ge w.destination.size entry.size.toNat with small | fits
    · rw [read_of_no_room isCluster small] at failed
      cases failed
      exact .inl ⟨rfl, rfl, .inr ⟨_, _, rfl⟩⟩
    · rcases v.failsAt_or_completes (Nat.lt_succ_of_le valid.2) entry.size with
        ⟨k, reason', fails⟩ | ⟨n, completes⟩
      · have broken := fails.breaksOff (Nat.lt_succ_of_le valid.2)
        rw [read_of_walk isCluster fits (Nat.le_refl _), broken.failure?_eq] at failed
        cases failed
        have left := broken.leftAt fits
        rw [number] at fails left
        exact .inr ⟨k, fails, left, congrArg (w.copies ++ ·) broken.map_supplied⟩
      · rw [read_of_completes valid fits completes] at failed
        cases failed
  · rw [read_of_invalid valid] at failed
    cases failed
    -- The greatest number a record can hold is a cluster, so this one is too small.
    have := entry.cluster.toNat_lt
    exact .inl ⟨rfl, rfl, .inl (.noCluster (by omega))⟩

/-- What a read comes to and what it leaves in the destination depends on the destination alone. -/
theorem read_of_same_destination (memory : Memory) {w₁ : Workspace}
    (same : w₁.destination = w.destination) (first size : UInt32) :
    (v.read memory w.destination.size first size).outcome w₁ =
        (v.read memory w.destination.size first size).outcome w ∧
      ((v.read memory w.destination.size first size).after w₁).destination =
        ((v.read memory w.destination.size first size).after w).destination := by
  have inside : w.destination.size ≤ w₁.destination.size := by rw [same]
  cases isCluster : Cluster.ofIndex first.toNat with
  | error reason =>
    rw [outcome, outcome, after, after, read_of_no_cluster isCluster, read_of_no_cluster isCluster]
    exact ⟨rfl, same⟩
  | ok cluster =>
    rcases Nat.lt_or_ge w.destination.size size.toNat with small | fits
    · rw [outcome, outcome, after, after, read_of_no_room isCluster small,
        read_of_no_room isCluster small]
      exact ⟨rfl, same⟩
    · rw [outcome, outcome, after, after, read_of_walk isCluster fits inside,
        read_of_walk isCluster fits (Nat.le_refl _)]
      cases (v.walk first.toNat size).failure? with
      | some reason => exact ⟨rfl, congrArg (Bytes.overwrite · 0 _) same⟩
      | none => exact ⟨rfl, congrArg (Bytes.overwrite · 0 _) same⟩

end Volume

namespace Kernel

variable {settings : Settings} {disk : Bytes} {v : Volume} {w w' : Workspace}
  {entry : DirectoryEntry} {reason : Abort}

/-- The volume that a disk is found to have: its partition is located, and the volume in it is
opened. -/
def Opens (settings : Settings) (disk : Bytes) (w : Workspace) (v : Volume) : Prop :=
  ∃ partition, (Partition.ofDisk disk settings.partition).outcome w = .ok partition ∧
    (Volume.openImage partition.image settings).outcome w = .ok v

theorem opens_iff : Opens settings disk w v ↔ volumeOn settings disk = .ok v := by
  simp only [Opens, Partition.outcome_ofDisk, Volume.outcome_openImage, mapError_eq_ok_iff]
  cases located : Partition.onDisk disk settings.partition with
  | error reason => simp [volumeOn_of_no_partition located]
  | ok partition => simp [volumeOn_of_partition located]

/-- A reason that no volume is opened for. -/
inductive OfOpening : Abort → Prop where
  | outside (offset length : Nat) : OfOpening (.outOfBounds offset length)
  | noPartition : OfOpening .noPartition
  | wrongSignature (offset : Nat) (found : UInt8 × UInt8) : OfOpening (.invalidSignature offset found)
  | emptyClusters : OfOpening .emptyClusters

theorem ofOpening_of_startOn {lookup : PartitionLookup}
    (lost : Partition.startOn disk lookup = .error reason) : OfOpening reason := by
  cases lookup with
  | atOffset offset => cases lost
  | bootRecord =>
    rw [Partition.startOn, Partition.firstSector] at lost
    split at lost
    · cases lost
      exact .outside ..
    · dsimp only at lost
      split at lost
      · cases lost
        exact .noPartition
      · cases lost

theorem ofOpening_of_onDisk {lookup : PartitionLookup}
    (lost : Partition.onDisk disk lookup = .error reason) : OfOpening reason := by
  unfold Partition.onDisk at lost
  cases started : Partition.startOn disk lookup with
  | error reason' =>
    rw [started] at lost
    cases lost
    exact ofOpening_of_startOn started
  | ok start =>
    simp only [started, bind, Except.bind, Partition.startingAt] at lost
    split at lost
    · cases lost
    · cases lost
      exact .outside ..

theorem ofOpening_of_ofImage {image : Bytes} (closed : Volume.ofImage image settings = .error reason) :
    OfOpening reason := by
  cases Volume.ofImage_eq_error_iff.mp closed with
  | noSignature => exact .outside ..
  | wrongSignature => exact .wrongSignature ..
  | noHeader => exact .outside ..
  | emptyClusters => exact .emptyClusters

theorem ofOpening_of_volumeOn (closed : volumeOn settings disk = .error reason) :
    OfOpening reason := by
  cases located : Partition.onDisk disk settings.partition with
  | error reason' =>
    rw [volumeOn_of_no_partition located] at closed
    cases closed
    exact ofOpening_of_onDisk located
  | ok partition =>
    rw [volumeOn_of_partition located] at closed
    exact ofOpening_of_ofImage closed

/-- The workspace once the kernel was looked up. -/
def looked (settings : Settings) (disk : Bytes) (v : Volume) (w : Workspace) : Workspace :=
  v.searched settings.kernelPath (opened settings disk w)

theorem destination_looked (settings : Settings) (disk : Bytes) (v : Volume) (w : Workspace) :
    (looked settings disk v w).destination = w.destination :=
  v.destination_searched settings.kernelPath (opened settings disk w)

theorem copies_looked (settings : Settings) (disk : Bytes) (v : Volume) (w : Workspace) :
    (looked settings disk v w).copies = w.copies :=
  v.copies_searched settings.kernelPath (opened settings disk w)

/-! The ways a load can go once the volume is opened. -/

theorem load_of_absent {cause : LoadError} (opens : volumeOn settings disk = .ok v)
    (absent : v.resolve settings.kernelPath = .error cause) (isAbsence : cause.IsAbsence) :
    load settings disk w = .error (.failure (.fileNotLoaded settings.kernelPath))
      ((looked settings disk v w).logged (.kernelMissing settings.kernelPath cause)) := by
  rw [load_of_volume opens]
  apply settle_of_absence (Volume.loadInto_of_missing absent)
  rintro reason rfl
  exact Volume.not_isAbsence_abort reason isAbsence

theorem load_of_abort (opens : volumeOn settings disk = .ok v)
    (broken : v.resolve settings.kernelPath = .error (.abort reason)) :
    load settings disk w = .error (.failure reason) (looked settings disk v w) := by
  rw [load_of_volume opens]
  exact settle_of_abort (Volume.loadInto_of_missing broken)

/-- A load that finds the kernel ends as the read of its entry does, and says so if it succeeds. -/
theorem load_of_entry (opens : volumeOn settings disk = .ok v)
    (found : v.resolve settings.kernelPath = .ok entry) (w : Workspace) :
    (∃ size w', v.read .strict w.destination.size entry.cluster.toUInt32 entry.size
        (looked settings disk v w) = .ok size w' ∧
      load settings disk w = .ok size (w'.logged (.kernelLoaded settings.kernelPath size))) ∨
    ∃ reason w', v.read .strict w.destination.size entry.cluster.toUInt32 entry.size
        (looked settings disk v w) = .error (.failure reason) w' ∧
      load settings disk w = .error (.failure reason) w' := by
  have attempted : v.load .strict settings.kernelPath (opened settings disk w) = _ :=
    Volume.load_of_resolve found
  rw [load_of_volume opens]
  cases ended : v.read .strict w.destination.size entry.cluster.toUInt32 entry.size
      (looked settings disk v w) with
  | ok size w' =>
    exact .inl ⟨size, w', rfl, settle_of_ok (attempted.trans (restate_ok ended))⟩
  | error stop w' =>
    have failed := ended
    rw [← destination_looked settings disk v w] at failed
    obtain ⟨reason, rfl, -⟩ := Volume.readFailure_of_error failed
    exact .inr ⟨reason, w', rfl, settle_of_abort (attempted.trans (restate_failure ended))⟩

/-- A load that finds the kernel comes to what the read of its entry comes to, and leaves the same
destination. -/
theorem outcome_load_of_entry (opens : volumeOn settings disk = .ok v)
    (found : v.resolve settings.kernelPath = .ok entry) (w : Workspace) :
    (load settings disk).outcome w =
        (v.read .strict w.destination.size entry.cluster.toUInt32 entry.size).outcome w ∧
      ((load settings disk).after w).destination =
        ((v.read .strict w.destination.size entry.cluster.toUInt32 entry.size).after w).destination
    := by
  obtain ⟨sameOutcome, sameDestination⟩ := Volume.read_of_same_destination (v := v) .strict
    (destination_looked settings disk v w)
    entry.cluster.toUInt32 entry.size
  rw [← sameOutcome, ← sameDestination]
  rcases load_of_entry opens found w with ⟨size, w', ended, loaded⟩ | ⟨reason, w', ended, loaded⟩
  · rw [outcome_of_ok loaded, outcome_of_ok ended, after_of_ok loaded, after_of_ok ended]
    exact ⟨rfl, rfl⟩
  · rw [outcome_of_error loaded, outcome_of_error ended, after_of_error loaded,
      after_of_error ended]
    exact ⟨rfl, rfl⟩

/-- The read of an entry never says that a file is absent. -/
theorem ne_fileNotLoaded_of_read {path : String}
    (failed : v.read .strict w.destination.size entry.cluster.toUInt32 entry.size w =
      .error (.failure reason) w') : reason ≠ .fileNotLoaded path := by
  rintro rfl
  rcases Volume.read_entry_failure .strict failed with ⟨-, -, ofChain | ⟨_, _, same⟩⟩ | ⟨k, broken⟩
  · cases ofChain
  · cases same
  · cases Volume.ofChain_of_refusal? broken.fails.refused

/-- A load says that the kernel is absent exactly where its path denotes no entry for want of
one. -/
theorem load_eq_fileNotLoaded_iff (opens : volumeOn settings disk = .ok v) :
    (load settings disk).outcome w = .error (.failure (.fileNotLoaded settings.kernelPath)) ↔
      ∃ cause, cause.IsAbsence ∧ v.resolve settings.kernelPath = .error cause := by
  rcases v.resolve_cases settings.kernelPath with
    ⟨cause, isAbsence, absent⟩ | ⟨reason, broken⟩ | ⟨entry, found⟩
  · rw [outcome_of_error (load_of_absent opens absent isAbsence)]
    exact ⟨fun _ => ⟨cause, isAbsence, absent⟩, fun _ => rfl⟩
  · rw [outcome_of_error (load_of_abort opens broken), broken]
    constructor
    · intro same
      cases same
      cases (Volume.resolve_eq_abort_iff.mp broken).2.2
    · rintro ⟨cause, isAbsence, same⟩
      cases same
      exact absurd isAbsence (Volume.not_isAbsence_abort reason)
  · rw [(outcome_load_of_entry opens found w).1, found]
    refine ⟨?_, nofun⟩
    intro same
    exact absurd rfl (ne_fileNotLoaded_of_read (eq_error_of_outcome same))

/-- What the failure of a load leaves: all that was there before, or the whole clusters in front of
the visit at which the read of the entry broke off. -/
theorem load_failure (failed : load settings disk w = .error (.failure reason) w') :
    (∀ n, reason = .invalidCluster n → n < 2) ∧
      ((w'.destination = w.destination ∧ w'.copies = w.copies) ∨
        ∃ v entry k, volumeOn settings disk = .ok v ∧
          v.resolve settings.kernelPath = .ok entry ∧ 1 ≤ k ∧ Volume.OfChain reason ∧
            v.BrokenOff entry k reason w w') := by
  cases opens : volumeOn settings disk with
  | error reason' =>
    rw [load_of_no_volume opens] at failed
    cases failed
    refine ⟨?_, .inl ⟨rfl, rfl⟩⟩
    rintro n rfl
    cases ofOpening_of_volumeOn opens
  | ok v =>
    rcases v.resolve_cases settings.kernelPath with
      ⟨cause, isAbsence, absent⟩ | ⟨reason', broken⟩ | ⟨entry, found⟩
    · rw [load_of_absent opens absent isAbsence] at failed
      cases failed
      exact ⟨nofun, .inl ⟨destination_looked .., copies_looked ..⟩⟩
    · rw [load_of_abort opens broken] at failed
      cases failed
      refine ⟨?_, .inl ⟨destination_looked .., copies_looked ..⟩⟩
      rintro n rfl
      cases (Volume.resolve_eq_abort_iff.mp broken).2.2
    · rcases load_of_entry opens found w with ⟨size, w₁, -, loaded⟩ | ⟨reason', w₁, ended, loaded⟩
      · cases failed.symm.trans loaded
      · cases failed.symm.trans loaded
        -- All stages before the read left the destination alone, so the read starts from `w`'s.
        rw [← destination_looked settings disk v w] at ended
        rcases Volume.read_entry_failure .strict ended with
          ⟨sameDestination, sameCopies, cause⟩ | ⟨k, broken⟩
        · refine ⟨?_, .inl ⟨sameDestination.trans (destination_looked ..),
            sameCopies.trans (copies_looked ..)⟩⟩
          rintro n rfl
          rcases cause with ofChain | ⟨_, _, same⟩
          · exact ofChain.small
          · cases same
        · have ofChain := Volume.ofChain_of_refusal? broken.fails.refused
          have broken := broken.of_same (destination_looked settings disk v w)
            (copies_looked settings disk v w)
          refine ⟨?_, ?_⟩
          · rintro n rfl
            exact ofChain.small
          · rcases Nat.eq_zero_or_pos k with rfl | copied
            · exact .inl broken.unchanged
            · exact .inr ⟨v, entry, k, rfl, found, copied, ofChain, broken⟩

end Kernel

end BootDisk
