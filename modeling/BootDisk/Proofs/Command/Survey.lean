import BootDisk.Command.Run
import BootDisk.Proofs.Kernel.Failure

/-!
# The course of a run

All that a run shows of a disk, and whether it gets the file, follows from the request and the disk
alone. `survey` says it: the lines and the verdict. Whatever the effects of the host are, an
inspection prints the lines of the survey, in order, and then does what the verdict says
(`inspect_eq`), so that a run touches files at two places only, the image in front of the survey and
the output behind it (`run_of_request`).
-/

namespace BootDisk.Command

open Loader

/-- The settings that a disk is opened with. -/
def Request.settings (request : Request) : Settings :=
  { Settings.standard with partition := request.partition }

/-- What becomes of the request on a disk. -/
inductive Verdict where
  | stopped (reason : Abort)
  | absent
  | loaded (content : Bytes)
  deriving DecidableEq

/-- What is shown of a disk, and what becomes of the request on it. -/
structure Survey where
  lines : List String
  verdict : Verdict
  deriving DecidableEq

/-- The lines on a volume in front of its entries. -/
def volumeLines (v : Volume) : List String :=
  parameterLines v ++ [directoryHeading]

/-- The line on a loaded file. -/
def loadedLine (request : Request) (entry : DirectoryEntry) : String :=
  "Loaded " ++ request.file ++ " (" ++ toString entry.size.toNat ++ " bytes)"

/-! The other lines of a run. -/

/-- The first line of a run. -/
def openingLine (request : Request) : String :=
  "Opening image: " ++ request.image

/-- The line on an image that is not read. -/
def unreadableLine (request : Request) (error : FileError) : String :=
  "Cannot read " ++ request.image ++ ": " ++ error.message

/-- The line on a file that is not loaded. -/
def missingLine (request : Request) : String :=
  "Cannot load " ++ request.file

/-- The line on a file that was written. -/
def writtenLine (path : String) : String :=
  "Wrote " ++ path

/-- The line on a file that was not written. -/
def unwrittenLine (path : String) (error : FileError) : String :=
  "Cannot write " ++ path ++ ": " ++ error.message

/-- Surveys the entry of the requested file, behind the lines on the volume. -/
def surveyEntry (request : Request) (v : Volume) (lines : List String) (entry : DirectoryEntry) :
    Survey :=
  match v.walkEntry entry with
  | .error reason => ⟨lines, .stopped reason⟩
  | .ok walk => ⟨lines ++ [loadedLine request entry], .loaded (v.gather walk)⟩

/-- Surveys a volume. -/
def surveyVolume (request : Request) (v : Volume) : Survey :=
  match v.directory with
  | .error reason => ⟨volumeLines v, .stopped reason⟩
  | .ok entries =>
    match v.resolve request.file with
    | .ok entry => surveyEntry request v (volumeLines v ++ entryLines entries) entry
    | .error (.abort reason) => ⟨volumeLines v ++ entryLines entries, .stopped reason⟩
    | .error _ => ⟨volumeLines v ++ entryLines entries, .absent⟩

/-- Surveys a disk. -/
def survey (request : Request) (disk : Bytes) : Survey :=
  match Kernel.volumeOn request.settings disk with
  | .error reason => ⟨[], .stopped reason⟩
  | .ok v => surveyVolume request v

/-- How a survey comes about: which stage settles it. -/
inductive Surveys (request : Request) (disk : Bytes) : Survey → Prop where
  | closed {reason : Abort} (noVolume : Kernel.volumeOn request.settings disk = .error reason) :
    Surveys request disk ⟨[], .stopped reason⟩
  | shut {v : Volume} {reason : Abort} (opens : Kernel.volumeOn request.settings disk = .ok v)
    (noDirectory : v.directory = .error reason) :
    Surveys request disk ⟨volumeLines v, .stopped reason⟩
  | absent {v : Volume} {entries : List DirectoryEntry} {cause : LoadError}
    (opens : Kernel.volumeOn request.settings disk = .ok v) (hasEntries : v.directory = .ok entries)
    (isAbsence : cause.IsAbsence) (missing : v.resolve request.file = .error cause) :
    Surveys request disk ⟨volumeLines v ++ entryLines entries, .absent⟩
  | broken {v : Volume} {entries : List DirectoryEntry} {entry : DirectoryEntry} {reason : Abort}
    (opens : Kernel.volumeOn request.settings disk = .ok v) (hasEntries : v.directory = .ok entries)
    (found : v.resolve request.file = .ok entry) (breaks : v.walkEntry entry = .error reason) :
    Surveys request disk ⟨volumeLines v ++ entryLines entries, .stopped reason⟩
  | loaded {v : Volume} {entries : List DirectoryEntry} {entry : DirectoryEntry} {walk : Walk}
    (opens : Kernel.volumeOn request.settings disk = .ok v) (hasEntries : v.directory = .ok entries)
    (found : v.resolve request.file = .ok entry) (arrives : v.walkEntry entry = .ok walk) :
    Surveys request disk
      ⟨volumeLines v ++ entryLines entries ++ [loadedLine request entry], .loaded (v.gather walk)⟩

theorem surveys (request : Request) (disk : Bytes) : Surveys request disk (survey request disk) := by
  rw [survey]
  cases opens : Kernel.volumeOn request.settings disk with
  | error reason => exact .closed opens
  | ok v =>
    simp only [surveyVolume]
    cases hasEntries : v.directory with
    | error reason => exact .shut opens hasEntries
    | ok entries =>
      rcases v.resolve_cases request.file with
        ⟨cause, isAbsence, absent⟩ | ⟨reason, broken⟩ | ⟨entry, found⟩
      · have settled := Surveys.absent opens hasEntries isAbsence absent
        rw [absent]
        rcases isAbsence with rfl | rfl <;> exact settled
      · cases Volume.resolves_of_resolve broken with
        | shut isName noDirectory => cases hasEntries.symm.trans noDirectory
      · simp only [found, surveyEntry]
        cases walked : v.walkEntry entry with
        | error reason => exact .broken opens hasEntries found walked
        | ok walk => exact .loaded opens hasEntries found walked

section Host

variable {m : Type → Type} [Monad m] (host : Host m) {request : Request} {disk : Bytes}

namespace Stage

variable {α : Type} {step : Loader Abort α} {a : α} {stop : Stop Abort}

theorem ofLoader_eq (step : Loader Abort α) :
    (ofLoader step : Stage m α) = ExceptT.mk (pure (step.outcome (.start #[]))) := by
  unfold ofLoader outcome
  cases step (.start #[]) <;> rfl

theorem ofLoader_of_ok (h : step.outcome (.start #[]) = .ok a) :
    (ofLoader step : Stage m α) = pure a := by
  rw [ofLoader_eq, h]
  rfl

theorem ofLoader_of_error (h : step.outcome (.start #[]) = .error stop) :
    (ofLoader step : Stage m α) = throw stop := by
  rw [ofLoader_eq, h]
  rfl

theorem ofExcept_ok (a : α) : (ofExcept (.ok a) : Stage m α) = pure a := rfl

theorem ofExcept_error (reason : Abort) :
    (ofExcept (.error reason) : Stage m α) = throw (.failure reason) := rfl

end Stage

/-- Prints lines in a stage. -/
def display (lines : List String) : Stage m Unit :=
  ExceptT.lift (host.printAll lines)

/-- Shows a volume and loads the requested file from it. -/
def inspectVolume (request : Request) (v : Volume) : Stage m Bool := do
  display host (volumeLines v)
  let entries ← Stage.ofExcept v.directory
  display host (entryLines entries)
  match ← Stage.ofLoader (v.lookup .strict request.file) with
  | none => return false
  | some entry =>
    let walk ← Stage.ofExcept (v.walkEntry entry)
    display host [loadedLine request entry]
    match request.output with
    | none => return true
    | some path => ExceptT.lift (writeOutput host path (v.gather walk))

/-- Does what a verdict asks for. -/
def conclude (request : Request) : Verdict → Stage m Bool
  | .stopped reason => throw (.failure reason)
  | .absent => return false
  | .loaded content =>
    match request.output with
    | none => return true
    | some path => ExceptT.lift (writeOutput host path content)

/-- Prints the lines of a survey and does what its verdict asks for. -/
def report (request : Request) (survey : Survey) : Stage m Bool := do
  display host survey.lines
  conclude host request survey.verdict

/-- Ends a run as the verdict asks for, and gives the exit status. -/
def finish (request : Request) : Verdict → m UInt32
  | .stopped reason => do
    host.complain reason.diagnostic
    return 1
  | .absent => do
    host.complain (missingLine request)
    return 1
  | .loaded content =>
    match request.output with
    | none => return 0
    | some path => do
      match ← host.writeFile path content with
      | .ok () =>
        host.print (writtenLine path)
        return 0
      | .error error =>
        host.complain (unwrittenLine path error)
        host.complain (missingLine request)
        return 1

/-- Arguments that are no request end a run at once. -/
theorem run_of_no_request {program : String} {arguments : List String} {error : UsageError}
    (wrong : Request.ofArguments arguments = .error error) :
    run host program arguments = (do
      host.complain (error.message program)
      return 1) := by
  rw [run, wrong]

section Lawful

variable [LawfulMonad m]

/-- No stage is run behind one that stops. -/
theorem Stage.throw_bind {α β : Type} (stop : Stop Abort) (next : α → Stage m β) :
    (throw stop : Stage m α) >>= next = throw stop := by
  apply ExceptT.ext
  simp

theorem display_append (front back : List String) :
    display host (front ++ back) = (do display host front; display host back : Stage m Unit) := by
  apply ExceptT.ext
  simp [display, Host.printAll]

theorem display_singleton (line : String) :
    (ExceptT.lift (host.print line) : Stage m Unit) = display host [line] := by
  simp [display, Host.printAll]

theorem display_nil : display host [] = (pure () : Stage m Unit) := by
  apply ExceptT.ext
  simp [display, Host.printAll]

/-- Locating the partition and opening the volume in it, as one stage. -/
theorem open_eq (settings : Settings) (disk : Bytes) :
    (do
      let partition ← Stage.ofLoader (Partition.ofDisk disk settings.partition)
      Stage.ofLoader (Volume.openImage partition.image settings) : Stage m Volume) =
        Stage.ofExcept (Kernel.volumeOn settings disk) := by
  cases located : Partition.onDisk disk settings.partition with
  | error reason =>
    have lost : (Partition.ofDisk disk settings.partition).outcome (.start #[]) =
        .error (.failure reason) := by
      rw [Partition.outcome_ofDisk, located]
      rfl
    rw [Stage.ofLoader_of_error lost, Stage.throw_bind, Kernel.volumeOn_of_no_partition located,
      Stage.ofExcept_error]
  | ok partition =>
    have found : (Partition.ofDisk disk settings.partition).outcome (.start #[]) =
        .ok partition := by
      rw [Partition.outcome_ofDisk, located]
      rfl
    rw [Stage.ofLoader_of_ok found, pure_bind, Stage.ofLoader_eq, Volume.outcome_openImage,
      Kernel.volumeOn_of_partition located]
    rfl

theorem inspect_eq_inspectVolume (request : Request) (disk : Bytes) :
    inspect host request disk = (do
      let volume ← Stage.ofExcept (Kernel.volumeOn request.settings disk)
      inspectVolume host request volume : Stage m Bool) := by
  simp only [← open_eq, inspectVolume, volumeLines, display_append, bind_assoc,
    ← display_singleton]
  rfl

theorem inspectVolume_eq (request : Request) (v : Volume) :
    inspectVolume host request v = report host request (surveyVolume request v) := by
  unfold inspectVolume surveyVolume
  cases v.directory with
  | error reason =>
    simp only [report, conclude, Stage.ofExcept_error, Stage.throw_bind]
  | ok entries =>
    rw [Stage.ofExcept_ok, pure_bind]
    -- The lookup and the survey both go by what the path denotes.
    rcases v.resolve_cases request.file with
      ⟨cause, isAbsence, absent⟩ | ⟨reason, broken⟩ | ⟨entry, found⟩
    · have looked : (v.lookup .strict request.file).outcome (.start #[]) = .ok none :=
        Volume.lookup_eq_none_iff.mpr ⟨cause, isAbsence, absent⟩
      rw [Stage.ofLoader_of_ok looked, absent, pure_bind]
      rcases isAbsence with rfl | rfl <;>
        simp only [report, conclude, display_append, bind_assoc]
    · have looked : (v.lookup .strict request.file).outcome (.start #[]) =
          .error (.failure reason) := Volume.lookup_eq_error_iff.mpr ⟨reason, broken, rfl⟩
      rw [Stage.ofLoader_of_error looked, broken, Stage.throw_bind]
      simp only [report, conclude, display_append, bind_assoc]
    · have looked : (v.lookup .strict request.file).outcome (.start #[]) = .ok (some entry) :=
        Volume.lookup_eq_some_iff.mpr found
      rw [Stage.ofLoader_of_ok looked, found, pure_bind]
      simp only [surveyEntry]
      cases v.walkEntry entry with
      | error reason =>
        simp only [report, conclude, display_append, bind_assoc, Stage.ofExcept_error,
          Stage.throw_bind]
      | ok walk =>
        simp only [report, conclude, display_append, bind_assoc, Stage.ofExcept_ok, pure_bind]

/-- An inspection prints the lines of the survey and does what its verdict asks for. -/
theorem inspect_eq (request : Request) (disk : Bytes) :
    inspect host request disk = report host request (survey request disk) := by
  rw [inspect_eq_inspectVolume, survey]
  cases Kernel.volumeOn request.settings disk with
  | error reason =>
    rw [Stage.ofExcept_error, Stage.throw_bind, report, display_nil, pure_bind]
    rfl
  | ok v => rw [Stage.ofExcept_ok, pure_bind, inspectVolume_eq]

/-- A request reads the image and, if that succeeds, prints the survey and ends as its verdict asks
for. -/
theorem run_of_request {program : String} {arguments : List String}
    (accepted : Request.ofArguments arguments = .ok request) :
    run host program arguments = (do
      host.print (openingLine request)
      match ← host.readFile request.image with
      | .error error =>
        host.complain (unreadableLine request error)
        return 1
      | .ok disk =>
        host.printAll (survey request disk).lines
        finish host request (survey request disk).verdict) := by
  rw [run, accepted]
  apply bind_congr
  intro _
  apply bind_congr
  intro content
  cases content with
  | error error => rfl
  | ok disk =>
    -- Both sides print the survey now; what is left is what the verdict asks for.
    simp only [inspect_eq, report, display, ExceptT.run_bind, ExceptT.run_lift, bind_assoc,
      map_eq_pure_bind, pure_bind]
    apply bind_congr
    intro _
    cases (survey request disk).verdict with
    | stopped reason => simp [conclude, finish, stopLine]
    | absent => simp [conclude, finish, missingLine]
    | loaded content =>
      cases kept : request.output with
      | none => simp [conclude, finish, kept]
      | some path =>
        simp only [conclude, finish, kept, writeOutput, ExceptT.run_lift, map_eq_pure_bind,
          bind_assoc, pure_bind]
        apply bind_congr
        intro written
        cases written <;> simp [writtenLine, unwrittenLine, missingLine]

end Lawful

end Host

end BootDisk.Command
