import BootDisk.Proofs.Command.Buffer
import BootDisk.Proofs.Command.TreeStorage
import BootDisk.Proofs.Messages

/-!
# What a run leaves

A run exits with status 0 exactly if every stage of it succeeds: the arguments are a request, the
image is read, the volume is opened, its root directory is there, the file is found and its chain
read, and the file is written if that was asked for. Files are changed by the last of these only, so
a run that fails leaves them as they were. Each statement is settled for the seven ways that a run
can take (`Storage.Course`).
-/

namespace BootDisk.Command

open Loader

/-! The line on a file that is not loaded differs from all others that a run complains in. -/

section Lines

theorem cannotLoad_ne_message (file program : String) (error : UsageError) :
    "Cannot load " ++ file ≠ error.message program := by
  cases error with
  | noImage =>
    rw [UsageError.message, String.append_assoc]
    exact append_ne_append (by decide) (by decide) _ _
  | noOutputPath =>
    show "Cannot load " ++ file ≠ "--out requires a path" ++ ""
    exact append_ne_append (by decide) (by decide) _ _

theorem cannotLoad_ne_unreadableLine (file : String) (request : Request) (error : FileError) :
    "Cannot load " ++ file ≠ unreadableLine request error := by
  rw [unreadableLine, String.append_assoc, String.append_assoc]
  exact append_ne_append (by decide) (by decide) _ _

theorem cannotLoad_ne_unwrittenLine (file path : String) (error : FileError) :
    "Cannot load " ++ file ≠ unwrittenLine path error := by
  rw [unwrittenLine, String.append_assoc, String.append_assoc]
  exact append_ne_append (by decide) (by decide) _ _

/-- No diagnostic is that line, whatever text stands for its place, as long as neither that text nor
the start of the line starts the other. -/
theorem cannotLoad_ne_placed {place : String} (apart : ¬ "Cannot load ".toList <+: place.toList)
    (apart' : ¬ place.toList <+: "Cannot load ".toList) (file : String) (reason : Abort) :
    "Cannot load " ++ file ≠ place ++ ": " ++ reason.message := by
  rw [String.append_assoc]
  exact append_ne_append apart apart' _ _

theorem cannotLoad_ne_diagnostic (file : String) (reason : Abort) :
    "Cannot load " ++ file ≠ reason.diagnostic :=
  cannotLoad_ne_placed (by decide) (by decide) file reason

end Lines

/-! The verdicts of a survey, by what the volume is asked for. -/

section Verdicts

variable {request : Request} {disk content : Bytes} {v : Volume} {entry : DirectoryEntry}

theorem verdict_of_missing {cause : LoadError}
    (opens : Kernel.volumeOn request.settings disk = .ok v) (inside : v.rootEnd ≤ v.image.size)
    (isAbsence : cause.IsAbsence) (missing : v.resolve request.file = .error cause) :
    (survey request disk).verdict = .absent := by
  -- The directory is there, so the survey gets as far as the path.
  obtain ⟨entries, hasEntries⟩ := Volume.exists_directory_iff.mpr inside
  rw [survey, opens]
  rcases isAbsence with rfl | rfl <;> simp only [surveyVolume, hasEntries, missing]

theorem verdict_of_fetches (opens : Kernel.volumeOn request.settings disk = .ok v)
    (inside : v.rootEnd ≤ v.image.size) (found : v.resolve request.file = .ok entry)
    (fetches : v.Fetches entry content) : (survey request disk).verdict = .loaded content := by
  obtain ⟨entries, hasEntries⟩ := Volume.exists_directory_iff.mpr inside
  obtain ⟨walk, walked, rfl⟩ := Volume.fetches_iff.mp fetches
  rw [survey, opens]
  simp only [surveyVolume, hasEntries, found, surveyEntry, walked]

theorem exists_of_verdict_absent (absent : (survey request disk).verdict = .absent) :
    ∃ v cause, Kernel.volumeOn request.settings disk = .ok v ∧ v.rootEnd ≤ v.image.size ∧
      cause.IsAbsence ∧ v.resolve request.file = .error cause := by
  have settled := surveys request disk
  generalize survey request disk = s at settled absent
  cases settled with
  | absent opens hasEntries isAbsence missing =>
    exact ⟨_, _, opens, Volume.exists_directory_iff.mp ⟨_, hasEntries⟩, isAbsence, missing⟩
  | closed => cases absent
  | shut => cases absent
  | broken => cases absent
  | loaded => cases absent

theorem exists_of_verdict_loaded (loads : (survey request disk).verdict = .loaded content) :
    ∃ v entry, Kernel.volumeOn request.settings disk = .ok v ∧ v.rootEnd ≤ v.image.size ∧
      v.resolve request.file = .ok entry ∧ v.Fetches entry content := by
  have settled := surveys request disk
  generalize survey request disk = s at settled loads
  cases settled with
  | loaded opens hasEntries found arrives =>
    cases loads
    exact ⟨_, _, opens, Volume.exists_directory_iff.mp ⟨_, hasEntries⟩, found,
      Volume.fetches_iff.mpr ⟨_, arrives, rfl⟩⟩
  | closed => cases loads
  | shut => cases loads
  | absent => cases loads
  | broken => cases loads

end Verdicts

namespace Storage

variable {σ ι : Type} (storage : Storage σ ι) {files : σ} {program : String}
  {arguments : List String} {request : Request} {v : Volume} {entry : DirectoryEntry}
  {content : Bytes} {path : String}

/-- A run gets as far as looking the file up: its arguments are a request, the image is read, the
volume in it is opened, and the root directory is there. -/
structure Searches (files : σ) (arguments : List String) (request : Request) (v : Volume) : Prop where
  accepted : Request.ofArguments arguments = .ok request
  opens : ∃ disk, storage.read files request.image = .ok disk ∧
    Kernel.Opens request.settings disk (.start #[]) v
  inside : v.rootEnd ≤ v.image.size

/-- A run gets the file: it finds the entry and reads its chain into a buffer. -/
structure Loads (files : σ) (arguments : List String) (request : Request) (v : Volume)
    (entry : DirectoryEntry) (content : Bytes) : Prop
    extends storage.Searches files arguments request v where
  found : (v.lookup .strict request.file).outcome (.start #[]) = .ok (some entry)
  fetches : v.Fetches entry content

variable {storage} in
theorem Searches.exists_verdict (h : storage.Searches files arguments request v)
    (missing : (v.lookup .strict request.file).outcome (.start #[]) = .ok none) :
    ∃ disk, storage.read files request.image = .ok disk ∧
      (survey request disk).verdict = .absent := by
  obtain ⟨disk, readable, opens⟩ := h.opens
  obtain ⟨cause, isAbsence, unresolved⟩ := Volume.lookup_eq_none_iff.mp missing
  exact ⟨disk, readable,
    verdict_of_missing (Kernel.opens_iff.mp opens) h.inside isAbsence unresolved⟩

variable {storage} in
theorem Loads.exists_verdict (h : storage.Loads files arguments request v entry content) :
    ∃ disk, storage.read files request.image = .ok disk ∧
      (survey request disk).verdict = .loaded content := by
  obtain ⟨disk, readable, opens⟩ := h.opens
  exact ⟨disk, readable, verdict_of_fetches (Kernel.opens_iff.mp opens) h.inside
    (Volume.lookup_eq_some_iff.mp h.found) h.fetches⟩

variable {storage} in
/-- There is one thing only that a run gets. -/
theorem Loads.unique {v' : Volume} {entry' : DirectoryEntry} {content' : Bytes}
    (h : storage.Loads files arguments request v entry content)
    (h' : storage.Loads files arguments request v' entry' content') : content = content' := by
  obtain ⟨disk, readable, loads⟩ := h.exists_verdict
  obtain ⟨disk', readable', loads'⟩ := h'.exists_verdict
  cases readable.symm.trans readable'
  cases loads.symm.trans loads'
  rfl

theorem exists_searches {disk : Bytes} (accepted : Request.ofArguments arguments = .ok request)
    (readable : storage.read files request.image = .ok disk)
    (absent : (survey request disk).verdict = .absent) :
    ∃ v, storage.Searches files arguments request v ∧
      (v.lookup .strict request.file).outcome (.start #[]) = .ok none := by
  obtain ⟨v, cause, opens, inside, isAbsence, missing⟩ := exists_of_verdict_absent absent
  exact ⟨v, ⟨accepted, ⟨disk, readable, Kernel.opens_iff.mpr opens⟩, inside⟩,
    Volume.lookup_eq_none_iff.mpr ⟨cause, isAbsence, missing⟩⟩

theorem exists_loads {disk : Bytes} (accepted : Request.ofArguments arguments = .ok request)
    (readable : storage.read files request.image = .ok disk)
    (loads : (survey request disk).verdict = .loaded content) :
    ∃ v entry, storage.Loads files arguments request v entry content := by
  obtain ⟨v, entry, opens, inside, found, fetches⟩ := exists_of_verdict_loaded loads
  exact ⟨v, entry, ⟨accepted, ⟨disk, readable, Kernel.opens_iff.mpr opens⟩, inside⟩,
    Volume.lookup_eq_some_iff.mpr found, fetches⟩

/-- A run exits with 0 exactly if it gets the file and the file is written, if that was asked
for. -/
theorem status_eq_zero_iff :
    (storage.runOn files program arguments).status = 0 ↔
      ∃ request v entry content, storage.Loads files arguments request v entry content ∧
        ∀ path, request.output = some path →
          ∃ files', storage.write files path content = .ok files' := by
  constructor
  · intro exits
    have course := storage.course files program arguments
    generalize storage.runOn files program arguments = trace at course exits
    cases course with
    | shown accepted readable loads kept =>
      obtain ⟨v, entry, h⟩ := storage.exists_loads accepted readable loads
      exact ⟨_, v, entry, _, h, fun path asked => by cases kept.symm.trans asked⟩
    | written accepted readable loads asked written =>
      obtain ⟨v, entry, h⟩ := storage.exists_loads accepted readable loads
      refine ⟨_, v, entry, _, h, fun path' asked' => ?_⟩
      cases asked.symm.trans asked'
      exact ⟨_, written⟩
    | refused => cases exits
    | unreadable => cases exits
    | stopped => cases exits
    | absent => cases exits
    | unwritten => cases exits
  · rintro ⟨request, v, entry, content, h, writes⟩
    obtain ⟨disk, readable, loads⟩ := h.exists_verdict
    rw [storage.runOn_of_disk h.accepted readable]
    cases asked : request.output with
    | none => rw [settle_of_kept storage loads asked]
    | some path =>
      obtain ⟨files', written⟩ := writes path asked
      rw [settle_of_written storage loads asked written]

namespace Course

variable {storage} {trace : Trace σ} {file : String}

theorem status_eq (course : storage.Course files program arguments trace) :
    trace.status = 0 ∨ trace.status = 1 := by
  cases course with
  | shown => exact .inl rfl
  | written => exact .inl rfl
  | refused => exact .inr rfl
  | unreadable => exact .inr rfl
  | stopped => exact .inr rfl
  | absent => exact .inr rfl
  | unwritten => exact .inr rfl

/-- Only a run that wrote a file leaves other files than there were. -/
theorem files_eq_or_written (course : storage.Course files program arguments trace) :
    trace.files = files ∨
      ∃ request v entry content path, storage.Loads files arguments request v entry content ∧
        request.output = some path ∧ storage.write files path content = .ok trace.files ∧
        trace.status = 0 := by
  cases course with
  | written accepted readable loads asked written =>
    obtain ⟨v, entry, h⟩ := storage.exists_loads accepted readable loads
    exact .inr ⟨_, v, entry, _, _, h, asked, written, rfl⟩
  | refused => exact .inl rfl
  | unreadable => exact .inl rfl
  | stopped => exact .inl rfl
  | absent => exact .inl rfl
  | shown => exact .inl rfl
  | unwritten => exact .inl rfl

/-- A run that was asked to write a file and exits with 0 has written what it got. -/
theorem exists_written (course : storage.Course files program arguments trace)
    (accepted : Request.ofArguments arguments = .ok request) (asked : request.output = some path)
    (exits : trace.status = 0) :
    ∃ v entry content, storage.Loads files arguments request v entry content ∧
      storage.write files path content = .ok trace.files := by
  cases course with
  | written accepted' readable loads asked' written =>
    cases accepted.symm.trans accepted'
    cases asked.symm.trans asked'
    obtain ⟨v, entry, h⟩ := storage.exists_loads accepted readable loads
    exact ⟨v, entry, _, h, written⟩
  | shown accepted' _ _ kept =>
    cases accepted.symm.trans accepted'
    cases asked.symm.trans kept
  | refused => cases exits
  | unreadable => cases exits
  | stopped => cases exits
  | absent => cases exits
  | unwritten => cases exits

/-- A file is called not loaded only where it was looked up and is absent, or was not written. -/
theorem of_cannotLoad_mem (course : storage.Course files program arguments trace)
    (told : "Cannot load " ++ file ∈ trace.errors) :
    (∃ request v, storage.Searches files arguments request v ∧ request.file = file ∧
      (v.lookup .strict file).outcome (.start #[]) = .ok none) ∨
    ∃ request v entry content path error, storage.Loads files arguments request v entry content ∧
      request.file = file ∧ request.output = some path ∧
        storage.write files path content = .error error := by
  -- Two ways print the line; no other complaint starts as it does.
  cases course with
  | refused => exact absurd (List.mem_singleton.mp told) (cannotLoad_ne_message _ _ _)
  | unreadable => exact absurd (List.mem_singleton.mp told) (cannotLoad_ne_unreadableLine _ _ _)
  | stopped => exact absurd (List.mem_singleton.mp told) (cannotLoad_ne_diagnostic _ _)
  | absent accepted readable absent =>
    cases (String.append_right_inj _).mp (List.mem_singleton.mp told)
    obtain ⟨v, h, missing⟩ := storage.exists_searches accepted readable absent
    exact .inl ⟨_, v, h, rfl, missing⟩
  | unwritten accepted readable loads asked unwritten =>
    rcases List.mem_cons.mp told with same | told
    · exact absurd same (cannotLoad_ne_unwrittenLine _ _ _)
    · cases (String.append_right_inj _).mp (List.mem_singleton.mp told)
      obtain ⟨v, entry, h⟩ := storage.exists_loads accepted readable loads
      exact .inr ⟨_, v, entry, _, _, _, h, rfl, asked, unwritten⟩
  | shown => cases told
  | written => cases told

end Course

/-- A file is called not loaded exactly if the run got as far as looking it up and it is absent, or
if the run got it and it was not written. -/
theorem cannotLoad_mem_iff {file : String} :
    "Cannot load " ++ file ∈ (storage.runOn files program arguments).errors ↔
      (∃ request v, storage.Searches files arguments request v ∧ request.file = file ∧
        (v.lookup .strict file).outcome (.start #[]) = .ok none) ∨
      ∃ request v entry content path error, storage.Loads files arguments request v entry content ∧
        request.file = file ∧ request.output = some path ∧
          storage.write files path content = .error error := by
  refine ⟨(storage.course files program arguments).of_cannotLoad_mem, ?_⟩
  rintro (⟨request, v, h, rfl, missing⟩ |
    ⟨request, v, entry, content, path, error, h, rfl, asked, unwritten⟩)
  · obtain ⟨disk, readable, absent⟩ := h.exists_verdict missing
    rw [storage.runOn_of_disk h.accepted readable, settle_of_absent storage absent]
    exact List.mem_singleton_self _
  · obtain ⟨disk, readable, loads⟩ := h.exists_verdict
    rw [storage.runOn_of_disk h.accepted readable,
      settle_of_unwritten storage loads asked unwritten]
    exact List.mem_cons_of_mem _ (List.mem_singleton_self _)

/-- **What a run does.** It exits with 0 or 1, and with 0 exactly if its arguments are a request,
the image is read, the volume in it is opened, the root directory is inside the partition, the file
is found, its chain is read into a buffer, and the buffer is written, if that was asked for. A run
that exits with 0 and was asked for it has written one file, and that holds the bytes of the chain;
any other run leaves the files as they were. The file is called not loaded exactly if it was looked
up and is absent, or if it was not written: a load into a buffer, once the entry was found, never
says that there is no such file, and what would be done then does not matter. -/
theorem run_exits_by_stage (files : σ) (program : String) (arguments : List String) :
    ((storage.runOn files program arguments).status = 0 ∨
      (storage.runOn files program arguments).status = 1) ∧
    ((storage.runOn files program arguments).status = 0 ↔
      ∃ request v entry content, storage.Loads files arguments request v entry content ∧
        ∀ path, request.output = some path →
          ∃ files', storage.write files path content = .ok files') ∧
    ((storage.runOn files program arguments).status ≠ 0 →
      (storage.runOn files program arguments).files = files) ∧
    (∀ request, Request.ofArguments arguments = .ok request →
      (request.output = none → (storage.runOn files program arguments).files = files) ∧
      ∀ path, request.output = some path → (storage.runOn files program arguments).status = 0 →
        ∃ v entry content i, storage.Loads files arguments request v entry content ∧
          content.size = entry.size.toNat ∧
          (∀ p < entry.size.toNat,
            content[p]? = v.image[v.sourcePosition entry.cluster.toNat entry.size.toNat p]?) ∧
          storage.write files path content = .ok (storage.runOn files program arguments).files ∧
          storage.place files path = some i ∧
          storage.content (storage.runOn files program arguments).files i = some content ∧
          ∀ j, j ≠ i → storage.content (storage.runOn files program arguments).files j =
            storage.content files j) ∧
    (∀ file, "Cannot load " ++ file ∈ (storage.runOn files program arguments).errors ↔
      (∃ request v, storage.Searches files arguments request v ∧ request.file = file ∧
        (v.lookup .strict file).outcome (.start #[]) = .ok none) ∨
      ∃ request v entry content path error, storage.Loads files arguments request v entry content ∧
        request.file = file ∧ request.output = some path ∧
          storage.write files path content = .error error) ∧
    (∀ (v : Volume) (file : String) (entry : DirectoryEntry),
      (v.lookup .strict file).outcome (.start #[]) = .ok (some entry) →
        (v.loadIfPresent .strict file).outcome (.start (Volume.zeros entry)) ≠ .ok false) ∧
    ∀ {m : Type → Type} [Monad m] [LawfulMonad m] (host : Host m) (request : Request) (disk : Bytes)
      (unloaded : Stage m Bool),
        inspectInBuffer host request disk unloaded = inspect host request disk := by
  have course := storage.course files program arguments
  refine ⟨course.status_eq, storage.status_eq_zero_iff, ?_, ?_, fun _ => storage.cannotLoad_mem_iff,
    ?_, fun host => inspectInBuffer_eq host⟩
  · intro fails
    rcases course.files_eq_or_written with kept | ⟨_, _, _, _, _, _, _, _, exits⟩
    · exact kept
    · exact absurd exits fails
  · intro request accepted
    constructor
    · intro kept
      rcases course.files_eq_or_written with same | ⟨request', _, _, _, _, h, asked, _⟩
      · exact same
      · cases accepted.symm.trans h.accepted
        cases kept.symm.trans asked
    · intro path asked exits
      obtain ⟨v, entry, content, h, written⟩ := course.exists_written accepted asked exits
      obtain ⟨filled, bytes⟩ := h.fetches.chain
      obtain ⟨i, leads, holds, others⟩ := storage.content_of_write written
      exact ⟨v, entry, content, i, h, filled, bytes, written, leads, holds, others⟩
  · intro v file entry found answered
    obtain ⟨cause, isAbsence, absent⟩ := Volume.loadIfPresent_eq_false_iff.mp answered
    cases (Volume.lookup_eq_some_iff.mp found).symm.trans absent

/-! A tree with an image in it, and runs on the tree. -/

/-- A tree with an image in its root. -/
def imageTree (image : Bytes) : FileTree where
  files := [(["disk"], image)]
  folders := []
  working := []

theorem read_imageTree (image : Bytes) :
    FileTree.storage.read (imageTree image) "disk" = .ok image := by
  cbv

theorem write_imageTree (image content : Bytes) :
    FileTree.storage.write (imageTree image) "out" content =
      .ok ((imageTree image).put ["out"] content) := by
  cbv

theorem write_imageTree_root (image content : Bytes) :
    FileTree.storage.write (imageTree image) "/" content = .error .isDirectory := by
  cbv

/-- An image with a file of three bytes in the clusters 3 and 2. The signature is behind all of
them. -/
def sampleImage : Bytes :=
  .mk ([0, 0, 0, 0, 0, 0, 0, 0, 0, 0, 0, 2, 0, 1, 12, 0, 1, 1, 0, 0, 0, 0, 4, 0, 0, 0, 0, 0, 0xFF, 0xFF,
    2, 0, 0x41, 0x20, 0x20, 0x20, 0x20, 0x20, 0x20, 0x20, 0x42, 0x20, 0x20, 0x20, 0, 0, 0, 0, 0, 0,
    0, 0, 0, 0, 0, 0, 0, 0, 3, 0, 3, 0, 0, 0, 63, 64, 61, 62] ++ List.replicate 442 0 ++
      [0x55, 0xAA])

/-- The volume in the sample image. -/
def sampleImageVolume : Volume where
  image := sampleImage
  parameters := ⟨2, 1, 12, 1, 1, 0, 0, 4⟩
  clusterSize_ne_zero := by decide

/-- The entry of that file. -/
def sampleImageEntry : DirectoryEntry :=
  { Volume.sampleEntry with cluster := 3, size := 3 }

theorem volumeOn_sampleImage :
    Kernel.volumeOn { Settings.standard with partition := .atOffset 0 } sampleImage =
      .ok sampleImageVolume := by
  have signed : BootParameters.requireSignature sampleImage 510 (0x55, 0xAA) = .ok () := by
    decide +kernel
  have header : sampleImage.window? 0 BootParameters.headerLength =
      some #v[0, 0, 0, 0, 0, 0, 0, 0, 0, 0, 0, 2, 0, 1, 12, 0, 1, 1, 0, 0, 0, 0, 4, 0] := by
    show sampleImage.window? 0 24 = _
    decide +kernel
  rw [Kernel.volumeOn_of_whole rfl]
  exact Volume.ofImage_of_header signed header rfl (by decide)

theorem lookup_sampleImage :
    (sampleImageVolume.lookup .strict "A.B").outcome (.start #[]) = .ok (some sampleImageEntry) :=
  Volume.lookup_eq_some_iff.mpr (by decide +kernel)

theorem lookup_other_sampleImage :
    (sampleImageVolume.lookup .strict "A.C").outcome (.start #[]) = .ok none :=
  Volume.lookup_eq_none_iff.mpr ⟨.notFound, .inr rfl, by decide +kernel⟩

theorem fetches_sampleImage : sampleImageVolume.Fetches sampleImageEntry #[61, 62, 63] :=
  ⟨_, eq_ok_of_outcome (by decide +kernel), by decide +kernel⟩

/-- The tree with the sample image. -/
def sampleTree : FileTree :=
  imageTree sampleImage

theorem searches_sampleTree {arguments : List String} {file : String} {output : Option String}
    (accepted : Request.ofArguments arguments = .ok ⟨"disk", .atOffset 0, file, output⟩) :
    FileTree.storage.Searches sampleTree arguments ⟨"disk", .atOffset 0, file, output⟩
      sampleImageVolume where
  accepted := accepted
  opens := ⟨sampleImage, read_imageTree sampleImage, Kernel.opens_iff.mpr volumeOn_sampleImage⟩
  inside := by decide +kernel

theorem loads_sampleTree {arguments : List String} {output : Option String}
    (accepted : Request.ofArguments arguments = .ok ⟨"disk", .atOffset 0, "A.B", output⟩) :
    FileTree.storage.Loads sampleTree arguments ⟨"disk", .atOffset 0, "A.B", output⟩
      sampleImageVolume sampleImageEntry #[61, 62, 63] where
  toSearches := searches_sampleTree accepted
  found := lookup_sampleImage
  fetches := fetches_sampleImage

/-- A file that is loaded and written, one that is only loaded, one that is absent, and one that is
not written; and a load of an entry that was found does not call it absent. -/
theorem run_exits_by_stage_sampleTree :
    (∃ v entry i, FileTree.storage.Loads sampleTree ["disk", "A.B", "--out", "out"]
        ⟨"disk", .atOffset 0, "A.B", some "out"⟩ v entry #[61, 62, 63] ∧ entry.size.toNat = 3 ∧
      FileTree.storage.content (FileTree.storage.runOn sampleTree "load"
        ["disk", "A.B", "--out", "out"]).files i = some #[61, 62, 63]) ∧
    (FileTree.storage.runOn sampleTree "load" ["disk", "A.B"]).files = sampleTree ∧
    ("Cannot load " ++ "A.C" ∈
        (FileTree.storage.runOn sampleTree "load" ["disk", "A.C", "--out", "out"]).errors ∧
      (FileTree.storage.runOn sampleTree "load" ["disk", "A.C", "--out", "out"]).files =
        sampleTree) ∧
    ("Cannot load " ++ "A.B" ∈
        (FileTree.storage.runOn sampleTree "load" ["disk", "A.B", "--out", "/"]).errors ∧
      (FileTree.storage.runOn sampleTree "load" ["disk", "A.B", "--out", "/"]).files =
        sampleTree) ∧
    (sampleImageVolume.loadIfPresent .strict "A.B").outcome
      (.start (Volume.zeros sampleImageEntry)) ≠ .ok false := by
  have asksToWrite : Request.ofArguments ["disk", "A.B", "--out", "out"] =
      .ok ⟨"disk", .atOffset 0, "A.B", some "out"⟩ := by decide
  have asksToLoad : Request.ofArguments ["disk", "A.B"] = .ok ⟨"disk", .atOffset 0, "A.B", none⟩ := by
    decide
  have asksForOther : Request.ofArguments ["disk", "A.C", "--out", "out"] =
      .ok ⟨"disk", .atOffset 0, "A.C", some "out"⟩ := by decide
  have asksForFolder : Request.ofArguments ["disk", "A.B", "--out", "/"] =
      .ok ⟨"disk", .atOffset 0, "A.B", some "/"⟩ := by decide
  refine ⟨?_, ?_, ?_, ?_, ?_⟩
  · obtain ⟨-, exits, -, settled, -⟩ := run_exits_by_stage FileTree.storage sampleTree "load"
      ["disk", "A.B", "--out", "out"]
    have loads := loads_sampleTree asksToWrite
    have exits := exits.mpr ⟨_, _, _, _, loads, fun path asked => by
      cases asked
      exact ⟨_, write_imageTree sampleImage _⟩⟩
    obtain ⟨v, entry, content, i, h, filled, -, -, -, holds, -⟩ :=
      (settled _ asksToWrite).2 "out" rfl exits
    cases loads.unique h
    exact ⟨v, entry, i, h, filled.symm, holds⟩
  · exact ((run_exits_by_stage FileTree.storage sampleTree "load"
      ["disk", "A.B"]).2.2.2.1 _ asksToLoad).1 rfl
  · obtain ⟨-, -, kept, -, told, -⟩ := run_exits_by_stage FileTree.storage sampleTree "load"
      ["disk", "A.C", "--out", "out"]
    have searches := searches_sampleTree asksForOther
    refine ⟨(told "A.C").mpr (.inl ⟨_, _, searches, rfl, lookup_other_sampleImage⟩), kept ?_⟩
    obtain ⟨disk, readable, absent⟩ := searches.exists_verdict lookup_other_sampleImage
    rw [runOn_of_disk _ asksForOther readable, settle_of_absent _ absent]
    show (1 : UInt32) ≠ 0
    decide
  · obtain ⟨-, -, kept, -, told, -⟩ := run_exits_by_stage FileTree.storage sampleTree "load"
      ["disk", "A.B", "--out", "/"]
    have loads := loads_sampleTree asksForFolder
    have unwritten : FileTree.storage.write sampleTree "/" #[61, 62, 63] = .error .isDirectory :=
      write_imageTree_root sampleImage _
    refine ⟨(told "A.B").mpr (.inr ⟨_, _, _, _, _, _, loads, rfl, rfl, unwritten⟩), kept ?_⟩
    obtain ⟨disk, readable, loaded⟩ := loads.exists_verdict
    rw [runOn_of_disk _ asksForFolder readable, settle_of_unwritten _ loaded rfl unwritten]
    show (1 : UInt32) ≠ 0
    decide
  · obtain ⟨-, -, -, -, -, present, -⟩ := run_exits_by_stage FileTree.storage sampleTree "load" []
    exact present _ _ _ lookup_sampleImage

end Storage

end BootDisk.Command
