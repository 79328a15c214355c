import BootDisk.Proofs.Command.Survey

/-!
# Loading into a buffer

A run walks the chain of a file and gathers its bytes when they are to be written. It might as well
make a buffer of zeros as long as the file, load the file into it and give up if the load says that
there is none: for the walk of an entry arrives exactly where a read into such a buffer succeeds,
with the same bytes (`Volume.fetches_iff`), and a load that tolerates absence never calls a file
absent whose entry was just found. So what is done in that case does not matter
(`inspectInBuffer_eq`).
-/

namespace BootDisk

open Loader

namespace Volume

variable {v : Volume} {memory : Memory} {entry : DirectoryEntry} {walk : Walk} {content : Bytes}
  {w : Workspace}

/-- A buffer of zeros for the file of an entry. -/
def zeros (entry : DirectoryEntry) : Bytes :=
  Array.replicate entry.size.toNat 0

/-- The chain of an entry is read into a buffer for the file, and that leaves `content` there. -/
def Fetches (v : Volume) (entry : DirectoryEntry) (content : Bytes) : Prop :=
  ∃ w', v.read .strict entry.size.toNat entry.cluster.toUInt32 entry.size (.start (zeros entry)) =
    .ok entry.size w' ∧ w'.destination = content

theorem walkEntry_eq_ok (arrives : v.walkEntry entry = .ok walk) :
    (∃ cluster, Cluster.ofIndex entry.cluster.toUInt32.toNat = .ok cluster) ∧
      walk = v.walk entry.cluster.toUInt32.toNat entry.size ∧ walk.failure? = none := by
  rw [walkEntry, ← entry.cluster.toNat_toUInt32] at arrives
  cases isCluster : Cluster.ofIndex entry.cluster.toUInt32.toNat with
  | error reason =>
    rw [isCluster] at arrives
    cases arrives
  | ok cluster =>
    simp only [isCluster, bind, Except.bind] at arrives
    split at arrives
    · cases arrives
    · cases arrives
      exact ⟨⟨cluster, rfl⟩, rfl, ‹_›⟩

theorem walkEntry_eq_error {reason : Abort} (breaks : v.walkEntry entry = .error reason) :
    Cluster.ofIndex entry.cluster.toUInt32.toNat = .error reason ∨
      (∃ cluster, Cluster.ofIndex entry.cluster.toUInt32.toNat = .ok cluster) ∧
        (v.walk entry.cluster.toUInt32.toNat entry.size).failure? = some reason := by
  rw [walkEntry, ← entry.cluster.toNat_toUInt32] at breaks
  cases isCluster : Cluster.ofIndex entry.cluster.toUInt32.toNat with
  | error reason' =>
    rw [isCluster] at breaks
    cases breaks
    exact .inl rfl
  | ok cluster =>
    simp only [isCluster, bind, Except.bind] at breaks
    split at breaks
    · cases breaks
      exact .inr ⟨⟨cluster, rfl⟩, ‹_›⟩
    · cases breaks

/-- A walk that arrives is what a read of the entry delivers, and it fills the buffer. -/
theorem read_of_walkEntry (memory : Memory) (arrives : v.walkEntry entry = .ok walk)
    (room : w.destination.size = entry.size.toNat) :
    v.read memory entry.size.toNat entry.cluster.toUInt32 entry.size w =
        .ok entry.size (v.deliver walk w) ∧
      (v.deliver walk w).destination = v.gather walk := by
  obtain ⟨⟨cluster, isCluster⟩, rfl, sound⟩ := walkEntry_eq_ok arrives
  obtain ⟨n, arrived⟩ := arrives_of_failure?_eq_none (Cluster.lt_of_ofIndex isCluster) sound
  constructor
  · rw [read_of_walk isCluster (Nat.le_refl _) (Nat.le_of_eq room.symm), sound]
  · exact Memory.overwrite_of_size_eq (room.trans arrived.size_gather.symm)

/-- A walk that breaks off is why a read of the entry fails. -/
theorem read_of_no_walkEntry (memory : Memory) {reason : Abort}
    (breaks : v.walkEntry entry = .error reason) (room : w.destination.size = entry.size.toNat) :
    ∃ w', v.read memory entry.size.toNat entry.cluster.toUInt32 entry.size w =
      .error (.failure reason) w' := by
  rcases walkEntry_eq_error breaks with noCluster | ⟨⟨cluster, isCluster⟩, failed⟩
  · exact ⟨w, read_of_no_cluster noCluster⟩
  · rw [read_of_walk isCluster (Nat.le_refl _) (Nat.le_of_eq room.symm), failed]
    exact ⟨_, rfl⟩

theorem size_zeros (entry : DirectoryEntry) : (zeros entry).size = entry.size.toNat :=
  Array.size_replicate

/-- What a read into a buffer leaves there is what the walk gathers. -/
theorem fetches_iff :
    v.Fetches entry content ↔ ∃ walk, v.walkEntry entry = .ok walk ∧ v.gather walk = content := by
  have room : (Workspace.start (zeros entry)).destination.size = entry.size.toNat :=
    size_zeros entry
  constructor
  · rintro ⟨w', succeeded, rfl⟩
    cases walked : v.walkEntry entry with
    | error reason =>
      obtain ⟨w₁, failed⟩ := read_of_no_walkEntry .strict walked room
      cases succeeded.symm.trans failed
    | ok walk =>
      obtain ⟨delivered, gathered⟩ := read_of_walkEntry .strict walked room
      cases succeeded.symm.trans delivered
      exact ⟨walk, rfl, gathered.symm⟩
  · rintro ⟨walk, walked, rfl⟩
    obtain ⟨delivered, gathered⟩ := read_of_walkEntry .strict walked room
    exact ⟨_, delivered, gathered⟩

/-- A buffer that a file was read into holds the bytes of its chain. -/
theorem Fetches.chain (h : v.Fetches entry content) :
    content.size = entry.size.toNat ∧ ∀ p < entry.size.toNat,
      content[p]? = v.image[v.sourcePosition entry.cluster.toNat entry.size.toNat p]? := by
  obtain ⟨walk, walked, rfl⟩ := fetches_iff.mp h
  obtain ⟨⟨cluster, isCluster⟩, rfl, sound⟩ := walkEntry_eq_ok walked
  obtain ⟨n, arrived⟩ := arrives_of_failure?_eq_none (Cluster.lt_of_ofIndex isCluster) sound
  refine ⟨arrived.size_gather, fun p wanted => ?_⟩
  rw [arrived.getElem?_gather_eq wanted, entry.cluster.toNat_toUInt32]

end Volume

namespace Command

variable {m : Type → Type} [Monad m] (host : Host m) {request : Request} {disk : Bytes} {v : Volume}
  {entry : DirectoryEntry}

/-- A loading step as a stage. It starts with a buffer, and what it leaves there is given too. -/
def Stage.ofLoaderInto {α : Type} (buffer : Bytes) (step : Loader Abort α) : Stage m (α × Bytes) :=
  ExceptT.mk (pure ((step.outcome (.start buffer)).map fun a =>
    (a, (step.after (.start buffer)).destination)))

/-- Shows the volume of a disk and loads the requested file into a buffer. Where the load says that
there is no such file although its entry was found, `unloaded` is done. -/
def inspectInBuffer (request : Request) (disk : Bytes) (unloaded : Stage m Bool) : Stage m Bool := do
  let partition ← Stage.ofLoader (Partition.ofDisk disk request.settings.partition)
  let volume ← Stage.ofLoader (Volume.openImage partition.image request.settings)
  host.printAll (parameterLines volume)
  host.print directoryHeading
  let entries ← Stage.ofExcept volume.directory
  host.printAll (entryLines entries)
  match ← Stage.ofLoader (volume.lookup .strict request.file) with
  | none => return false
  | some entry =>
    let (isLoaded, buffer) ← Stage.ofLoaderInto (Volume.zeros entry)
      (volume.loadIfPresent .strict request.file)
    if isLoaded then
      host.print ("Loaded " ++ request.file ++ " (" ++ toString buffer.size ++ " bytes)")
      match request.output with
      | none => return true
      | some path => ExceptT.lift (writeOutput host path buffer)
    else
      unloaded

/-- Loading a file whose entry was found into a buffer for it gives what the walk of the entry
gathers, or is aborted as the walk is. -/
theorem ofLoaderInto_zeros (found : v.resolve request.file = .ok entry) :
    (Stage.ofLoaderInto (Volume.zeros entry) (v.loadIfPresent .strict request.file) :
        Stage m (Bool × Bytes)) =
      Stage.ofExcept ((v.walkEntry entry).map fun walk => (true, v.gather walk)) := by
  have room : (v.searched request.file (.start (Volume.zeros entry))).destination.size =
      entry.size.toNat := by
    rw [Volume.destination_searched]
    exact Volume.size_zeros entry
  have loaded : v.load .strict request.file (.start (Volume.zeros entry)) = _ :=
    Volume.load_of_resolve found
  rw [show (Workspace.start (Volume.zeros entry)).destination.size = entry.size.toNat from
    Volume.size_zeros entry] at loaded
  rw [Stage.ofLoaderInto]
  cases walked : v.walkEntry entry with
  | error reason =>
    obtain ⟨w', failed⟩ := Volume.read_of_no_walkEntry .strict walked room
    have aborted : v.loadIfPresent .strict request.file (.start (Volume.zeros entry)) = _ :=
      Volume.tolerateAbsence_of_abort (loaded.trans (restate_failure failed))
    rw [outcome_of_error aborted]
    rfl
  | ok walk =>
    obtain ⟨delivered, gathered⟩ := Volume.read_of_walkEntry .strict walked room
    have complete : v.loadIfPresent .strict request.file (.start (Volume.zeros entry)) = _ :=
      Volume.tolerateAbsence_of_ok (loaded.trans (restate_ok delivered))
    rw [outcome_of_ok complete, after_of_ok complete, gathered]
    rfl

/-- A load into a buffer never says that a file is absent whose entry was found, so that what would
be done in that case does not matter. -/
theorem inspectInBuffer_eq [LawfulMonad m] (request : Request) (disk : Bytes)
    (unloaded : Stage m Bool) :
    inspectInBuffer host request disk unloaded = inspect host request disk := by
  unfold inspectInBuffer inspect
  refine bind_congr fun partition => bind_congr fun v => bind_congr fun _ => bind_congr fun _ =>
    bind_congr fun entries => bind_congr fun _ => ?_
  cases looked : (v.lookup .strict request.file).outcome (.start #[]) with
  | error stop => rw [Stage.ofLoader_of_error looked, Stage.throw_bind, Stage.throw_bind]
  | ok found? =>
    rw [Stage.ofLoader_of_ok looked, pure_bind, pure_bind]
    cases found? with
    | none => rfl
    | some entry =>
      simp only [ofLoaderInto_zeros (Volume.lookup_eq_some_iff.mp looked)]
      cases walked : v.walkEntry entry with
      | error reason => simp only [Except.map, Stage.ofExcept_error, Stage.throw_bind]
      | ok walk =>
        have filled : (v.gather walk).size = entry.size.toNat :=
          (Volume.fetches_iff.mpr ⟨walk, walked, rfl⟩).chain.1
        simp only [Except.map, Stage.ofExcept_ok, pure_bind, if_true]
        -- The continuations are one; the lines differ in how they come to the size.
        refine congrArg (· >>= _) ?_
        rw [filled]

end Command

end BootDisk
