import BootDisk.Proofs.Bare.Read
import BootDisk.Proofs.Operations

/-!
# Runs with bare accesses

The loader written with bare accesses throughout does what the loader does. So none of its accesses
is outside of what it accesses, no stretch is out of order, no copy is between stretches of
different lengths, and no number is taken from a smaller one, whatever the disk, the settings, the
destination and the asked sizes are (`runs_are_sound`). All that is asked for is that the disk is
shorter than any address, as memory is.
-/

namespace BootDisk

open Loader

/-- A bare run that goes like a run of the loader, and breaks off at no fault. -/
structure Bare.Sound {ε α : Type} (bare plain : Loader ε α) (w : Workspace) : Prop where
  same : bare w = plain w
  no_fault : ∀ cause w', bare w ≠ .error (.fault cause) w'

theorem Bare.Sound.of_eq {ε α : Type} {bare plain : Loader ε α} {w : Workspace}
    (same : bare w = plain w) (sound : ∀ cause w', plain w ≠ .error (.fault cause) w') :
    Bare.Sound bare plain w :=
  ⟨same, fun cause w' faulted => sound cause w' (same.symm.trans faulted)⟩

/-- Steps with the same next steps behind the values that they give go the same. -/
theorem Loader.bind_eq_bind {ε α β : Type} {step : Loader ε α} {next next' : α → Loader ε β}
    {w : Workspace} (same : ∀ a w', step w = .ok a w' → next a w' = next' a w') :
    (step >>= next) w = (step >>= next') w := by
  cases ended : step w with
  | ok a w' => rw [bind_ok ended, bind_ok ended, same a w' ended]
  | error stop w' => rw [bind_error ended, bind_error ended]

theorem Loader.ofExcept_ne_fault {ε α : Type} (result : Except ε α) {w w' : Workspace}
    {cause : Fault} : ofExcept result w ≠ .error (.fault cause) w' := by
  intro faulted
  cases result <;> cases faulted

namespace Bare

variable {v : Volume} {w : Workspace}

/-- Loads a file into the destination. Gives its size. -/
def load (v : Volume) (path : String) : Loader LoadError UInt32 := do
  match ← ofAccess (nameOf path.toUTF8.data) with
  | none => fail .unsupportedPath
  | some name =>
    match ← (findNamed v name).restate .abort with
    | none => fail .notFound
    | some entry =>
      let room ← Volume.wholeRoom entry
      let read ← (read v room entry.cluster.toUInt32 entry.size).restate .abort
      if read = entry.size then
        return read
      else
        fail (.truncated entry.size.toNat read.toNat)

/-- Loads a file if it is present. -/
def loadIfPresent (v : Volume) (path : String) : Loader Abort Bool :=
  Volume.tolerateAbsence path (load v path)

/-- Loads the kernel from a disk into the destination. Gives its size. -/
def loadKernel (settings : Settings) (disk : Bytes) : Loader Abort UInt32 := do
  log .kernelWanted
  let partition ← onDisk disk settings.partition
  let volume ← openImage partition.image settings
  Kernel.settle settings (load volume settings.kernelPath)

theorem load_eq (v : Volume) (path : String) : load v path = v.load .strict path := by
  funext w
  unfold load Volume.load Volume.loadInto ShortName.ofPath?
  rw [nameOf_eq, ofAccess_ok_bind]
  cases ShortName.ofBytes? path.toUTF8.data.toList with
  | none => rfl
  | some name =>
    simp only [findNamed_eq]
    apply bind_eq_bind
    intro entry? w' _
    cases entry? with
    | none => rfl
    | some entry =>
      refine (bind_ok (Volume.wholeRoom_eq entry w')).trans
        (Eq.trans ?_ (bind_ok (Volume.wholeRoom_eq entry w')).symm)
      have reads := restate_congr (f := LoadError.abort)
        (read_eq v entry.cluster.toUInt32 entry.size w' (Nat.le_refl _))
      simp only [bind, EStateM.bind, reads]

theorem loadIfPresent_eq (v : Volume) (path : String) :
    loadIfPresent v path = v.loadIfPresent .strict path := by
  rw [loadIfPresent, load_eq, Volume.loadIfPresent]

/-- A partition is no longer than its disk. -/
theorem size_of_ofDisk {disk : Bytes} {lookup : PartitionLookup} {partition : Partition}
    {w' : Workspace} (found : Partition.ofDisk disk lookup w = .ok partition w') :
    partition.image.size ≤ disk.size := by
  rw [Partition.ofDisk_eq] at found
  cases located : Partition.onDisk disk lookup with
  | error reason =>
    rw [located] at found
    cases found
  | ok partition' =>
    rw [located] at found
    cases found
    unfold Partition.onDisk at located
    cases starts : Partition.startOn disk lookup with
    | error reason =>
      rw [starts] at located
      cases located
    | ok start =>
      rw [starts] at located
      simp only [bind, Except.bind, Partition.startingAt] at located
      split at located
      · cases located
        simp only [Array.size_extract]
        omega
      · cases located

theorem loadKernel_eq {disk : Bytes} (short : disk.size < 2 ^ 63) (settings : Settings) :
    loadKernel settings disk = Kernel.load settings disk := by
  funext w
  unfold loadKernel Kernel.load Kernel.loadFrom
  rw [onDisk_eq]
  apply bind_eq_bind
  intro _ w₁ _
  apply bind_eq_bind
  intro partition w₂ found
  have shorter : partition.image.size < 2 ^ 63 := Nat.lt_of_le_of_lt (size_of_ofDisk found) short
  rw [openImage_eq shorter]
  simp only [load_eq]

/-- **No access is unsound.** On a disk of any content that is shorter than any address, loading the
kernel, opening the volume, listing its entries, looking a path up, reading a chain and loading a
file go with bare accesses as they go without, and break off at no fault: whatever the settings, the
destination, the paths, the clusters and the sizes are. If there is a stretch for the signature, its
two bytes are there. -/
theorem runs_are_sound (disk : Bytes) (short : disk.size < 2 ^ 63) (settings : Settings)
    (w : Workspace) :
    Sound (loadKernel settings disk) (Kernel.load settings disk) w ∧
    Sound (openImage disk settings) (Volume.openImage disk settings) w ∧
    (∀ (offset : UInt64) (found : Bytes),
      stretch? disk offset.toNat (signatureEnd offset) = some found → found.size = 2) ∧
    ∀ v, Volume.ofImage disk settings = .ok v →
      Sound (entries v) (ofExcept v.directory) w ∧
      (∀ path, Sound (lookup v path) (v.lookup .strict path) w) ∧
      (∀ first size, Sound (read v w.destination.size first size)
        (v.read .strict w.destination.size first size) w) ∧
      (∀ path, Sound (load v path) (v.load .strict path) w) ∧
      ∀ path, Sound (loadIfPresent v path) (v.loadIfPresent .strict path) w := by
  refine ⟨?_, ?_, ?_, ?_⟩
  · apply Sound.of_eq (congrFun (loadKernel_eq short settings) w)
    exact fun cause w' => Kernel.load_ne_fault
  · apply Sound.of_eq (congrFun (openImage_eq short settings) w)
    intro cause w'
    rw [Volume.openImage_eq]
    exact ofExcept_ne_fault _
  · exact fun offset found => size_of_signature short
  · intro v _
    refine ⟨?_, ?_, ?_, ?_, ?_⟩
    · apply Sound.of_eq (congrFun (entries_eq v) w)
      exact fun cause w' => ofExcept_ne_fault _
    · intro path
      apply Sound.of_eq (congrFun (lookup_eq v path) w)
      exact fun cause w' => Volume.lookup_ne_fault
    · intro first size
      apply Sound.of_eq (read_eq v first size w (Nat.le_refl _))
      intro cause w' faulted
      obtain ⟨reason, same, -⟩ := Volume.readFailure_of_error faulted
      cases same
    · intro path
      apply Sound.of_eq (congrFun (load_eq v path) w)
      exact fun cause w' => Volume.load_ne_fault
    · intro path
      apply Sound.of_eq (congrFun (loadIfPresent_eq v path) w)
      exact fun cause w' => Volume.loadIfPresent_ne_fault

/-- Settings for a disk that is the sample volume, with the signature where the volume has it or at
some other offset. -/
def sampleSettings (signatureOffset : UInt64) : Settings :=
  { Volume.sampleSettings with partition := .atOffset 0, signatureOffset }

/-- The sample volume with an entry is opened and read with bare accesses, and refused where the
offset of its signature is the last word. -/
theorem runs_are_sound_sampleWithEntry :
    Volume.sampleWithEntry.image.size < 2 ^ 63 ∧
    Volume.ofImage Volume.sampleWithEntry.image (sampleSettings 24) = .ok Volume.sampleWithEntry ∧
    (∃ w', loadKernel (sampleSettings 24) Volume.sampleWithEntry.image
      (.start (Array.replicate 4 9)) = .ok 4 w') ∧
    (∃ w', loadKernel (sampleSettings 0xFFFFFFFFFFFFFFFF) Volume.sampleWithEntry.image
      (.start (Array.replicate 4 9)) = .error (.failure (.outOfBounds 0xFFFFFFFFFFFFFFFF 2)) w') ∧
    ∃ w', read Volume.sampleWithEntry 4 3 4 (.start (Array.replicate 4 9)) =
      .error (.failure (.badCluster 5)) w' := by
  have short : Volume.sampleWithEntry.image.size < 2 ^ 63 := by decide
  have opened : Volume.ofImage Volume.sampleWithEntry.image (sampleSettings 24) =
      .ok Volume.sampleWithEntry := by cbv
  have loaded : (Kernel.load (sampleSettings 24) Volume.sampleWithEntry.image).outcome
      (.start (Array.replicate 4 9)) = .ok 4 := by decide +kernel
  have unsigned :
      (Kernel.load (sampleSettings 0xFFFFFFFFFFFFFFFF) Volume.sampleWithEntry.image).outcome
        (.start (Array.replicate 4 9)) =
          .error (.failure (.outOfBounds 0xFFFFFFFFFFFFFFFF 2)) := by decide +kernel
  have bad : (Volume.sampleWithEntry.read .strict 4 3 4).outcome (.start (Array.replicate 4 9)) =
      .error (.failure (.badCluster 5)) := by decide +kernel
  obtain ⟨first, -, -, onVolume⟩ :=
    runs_are_sound _ short (sampleSettings 24) (.start (Array.replicate 4 9))
  obtain ⟨second, -⟩ :=
    runs_are_sound _ short (sampleSettings 0xFFFFFFFFFFFFFFFF) (.start (Array.replicate 4 9))
  obtain ⟨-, -, reads, -⟩ := onVolume _ opened
  exact ⟨short, opened, ⟨_, first.same.trans (eq_ok_of_outcome loaded)⟩,
    ⟨_, second.same.trans (eq_error_of_outcome unsigned)⟩,
    ⟨_, (reads 3 4).same.trans (eq_error_of_outcome bad)⟩⟩

end Bare

end BootDisk
