import BootDisk.Proofs.Command.Survey

/-!
# Runs on a storage

A `Storage` is what a run needs of a system of files: a file is read as a whole or not at all, and
written as a whole or not at all. Which errors there are and how paths lead to files is left open. A
run on a storage leaves its status, the lines it printed and the files, and there are seven ways it
can take (`Course`).
-/

namespace BootDisk.Command

/-- Files at places, which are read and replaced as a whole. -/
structure Storage (σ ι : Type) where
  /-- The place that a path leads to. -/
  place : σ → String → Option ι
  /-- What the file at a place holds, if there is one. -/
  content : σ → ι → Option Bytes
  read : σ → String → Except FileError Bytes
  write : σ → String → Bytes → Except FileError σ
  /-- What is read is what the file holds. -/
  content_of_read {files : σ} {path : String} {bytes : Bytes} (h : read files path = .ok bytes) :
    ∃ i, place files path = some i ∧ content files i = some bytes
  /-- What is written is what the file holds then, and no other file is touched. -/
  content_of_write {files files' : σ} {path : String} {bytes : Bytes}
    (h : write files path bytes = .ok files') :
    ∃ i, place files path = some i ∧ content files' i = some bytes ∧
      ∀ j, j ≠ i → content files' j = content files j

/-- Files, and the lines that were printed so far. -/
structure Tape (σ : Type) where
  files : σ
  output : List String
  errors : List String
  deriving DecidableEq

/-- What a run leaves. -/
structure Trace (σ : Type) where
  status : UInt32
  output : List String
  errors : List String
  files : σ
  deriving DecidableEq

namespace Storage

variable {σ ι : Type} (storage : Storage σ ι)

/-- The effects of the command on a storage. -/
def host : Host (StateM (Tape σ)) where
  print line := modify fun tape => { tape with output := tape.output ++ [line] }
  complain line := modify fun tape => { tape with errors := tape.errors ++ [line] }
  readFile path := return storage.read (← get).files path
  writeFile path bytes := do
    let tape ← get
    match storage.write tape.files path bytes with
    | .ok files =>
      set { tape with files }
      return .ok ()
    | .error error => return .error error

/-- Runs the command on a storage. -/
def runOn (files : σ) (program : String) (arguments : List String) : Trace σ :=
  let (status, tape) := (run storage.host program arguments).run ⟨files, [], []⟩
  ⟨status, tape.output, tape.errors, tape.files⟩

/-- An effect goes on from what the one before it leaves. -/
theorem run_bind {α β : Type} (effect : StateM (Tape σ) α) (next : α → StateM (Tape σ) β)
    (tape : Tape σ) :
    (effect >>= next).run tape = (next (effect.run tape).1).run (effect.run tape).2 := rfl

@[simp]
theorem run_print (line : String) (tape : Tape σ) :
    (storage.host.print line).run tape = ((), { tape with output := tape.output ++ [line] }) := rfl

@[simp]
theorem run_complain (line : String) (tape : Tape σ) :
    (storage.host.complain line).run tape =
      ((), { tape with errors := tape.errors ++ [line] }) := rfl

@[simp]
theorem run_readFile (path : String) (tape : Tape σ) :
    (storage.host.readFile path).run tape = (storage.read tape.files path, tape) := rfl

theorem run_writeFile_of_ok {path : String} {bytes : Bytes} {tape : Tape σ} {files : σ}
    (written : storage.write tape.files path bytes = .ok files) :
    (storage.host.writeFile path bytes).run tape = (.ok (), { tape with files }) := by
  simp only [host, StateT.run_bind, StateT.run_get, pure_bind, written]
  rfl

theorem run_writeFile_of_error {path : String} {bytes : Bytes} {tape : Tape σ} {error : FileError}
    (unwritten : storage.write tape.files path bytes = .error error) :
    (storage.host.writeFile path bytes).run tape = (.error error, tape) := by
  simp only [host, StateT.run_bind, StateT.run_get, pure_bind, unwritten]
  rfl

theorem run_printAll (lines : List String) (tape : Tape σ) :
    (storage.host.printAll lines).run tape =
      ((), { tape with output := tape.output ++ lines }) := by
  induction lines generalizing tape with
  | nil =>
    rw [List.append_nil]
    rfl
  | cons line rest ih =>
    have first : storage.host.printAll (line :: rest) = (do
        storage.host.print line
        storage.host.printAll rest) := rfl
    rw [first, run_bind, run_print, ih, List.append_assoc, List.singleton_append]

/-- What a run leaves that has read its image, by the survey of the image. -/
def settle (files : σ) (request : Request) (survey : Survey) : Trace σ :=
  match survey.verdict with
  | .stopped reason => ⟨1, openingLine request :: survey.lines, [reason.diagnostic], files⟩
  | .absent => ⟨1, openingLine request :: survey.lines, [missingLine request], files⟩
  | .loaded content =>
    match request.output with
    | none => ⟨0, openingLine request :: survey.lines, [], files⟩
    | some path =>
      match storage.write files path content with
      | .ok files' => ⟨0, openingLine request :: survey.lines ++ [writtenLine path], [], files'⟩
      | .error error =>
        ⟨1, openingLine request :: survey.lines, [unwrittenLine path error, missingLine request],
          files⟩

section Settle

variable {files files' : σ} {program : String} {arguments : List String} {request : Request}
  {disk content : Bytes} {survey : Survey} {reason : Abort} {path : String} {error : FileError}

theorem settle_of_stopped (stops : survey.verdict = .stopped reason) :
    storage.settle files request survey =
      ⟨1, openingLine request :: survey.lines, [reason.diagnostic], files⟩ := by
  simp only [settle, stops]

theorem settle_of_absent (absent : survey.verdict = .absent) :
    storage.settle files request survey =
      ⟨1, openingLine request :: survey.lines, [missingLine request], files⟩ := by
  simp only [settle, absent]

theorem settle_of_kept (loads : survey.verdict = .loaded content) (kept : request.output = none) :
    storage.settle files request survey =
      ⟨0, openingLine request :: survey.lines, [], files⟩ := by
  simp only [settle, loads, kept]

theorem settle_of_written (loads : survey.verdict = .loaded content)
    (asked : request.output = some path) (written : storage.write files path content = .ok files') :
    storage.settle files request survey =
      ⟨0, openingLine request :: survey.lines ++ [writtenLine path], [], files'⟩ := by
  simp only [settle, loads, asked, written]

theorem settle_of_unwritten (loads : survey.verdict = .loaded content)
    (asked : request.output = some path)
    (unwritten : storage.write files path content = .error error) :
    storage.settle files request survey =
      ⟨1, openingLine request :: survey.lines, [unwrittenLine path error, missingLine request],
        files⟩ := by
  simp only [settle, loads, asked, unwritten]

/-- A run that has read its image is settled by the survey of it. -/
theorem runOn_of_disk (accepted : Request.ofArguments arguments = .ok request)
    (readable : storage.read files request.image = .ok disk) :
    storage.runOn files program arguments =
      storage.settle files request (Command.survey request disk) := by
  rw [runOn, run_of_request _ accepted, run_bind, run_print, run_bind, run_readFile]
  -- Printing touches the output only, so the verdict meets the files as they were.
  simp only [List.nil_append, readable, run_bind, run_printAll]
  cases verdict : (Command.survey request disk).verdict with
  | stopped reason =>
    rw [settle_of_stopped storage verdict]
    rfl
  | absent =>
    rw [settle_of_absent storage verdict]
    rfl
  | loaded content =>
    cases asked : request.output with
    | none =>
      simp only [settle_of_kept storage verdict asked, finish, asked]
      rfl
    | some path =>
      simp only [finish, asked, run_bind]
      cases written : storage.write files path content with
      | ok files' =>
        rw [settle_of_written storage verdict asked written, run_writeFile_of_ok storage written]
        rfl
      | error error =>
        rw [settle_of_unwritten storage verdict asked written,
          run_writeFile_of_error storage written]
        rfl

end Settle

section Unsettled

variable {files : σ} {program : String} {arguments : List String}

/-- A run whose arguments are no request touches nothing. -/
theorem runOn_of_refused {error : UsageError}
    (wrong : Request.ofArguments arguments = .error error) :
    storage.runOn files program arguments = ⟨1, [], [error.message program], files⟩ := by
  rw [runOn, run_of_no_request _ wrong]
  rfl

/-- A run that does not get to read its image prints its opening line only. -/
theorem runOn_of_unread {request : Request} {error : FileError}
    (accepted : Request.ofArguments arguments = .ok request)
    (unread : storage.read files request.image = .error error) :
    storage.runOn files program arguments =
      ⟨1, [openingLine request], [unreadableLine request error], files⟩ := by
  rw [runOn, run_of_request _ accepted, run_bind, run_print, run_bind, run_readFile, unread]
  rfl

end Unsettled

/-- The ways a run can take, by the stage that settles it. -/
inductive Course (files : σ) (program : String) (arguments : List String) : Trace σ → Prop where
  | refused {error : UsageError} (wrong : Request.ofArguments arguments = .error error) :
    Course files program arguments ⟨1, [], [error.message program], files⟩
  | unreadable {request : Request} {error : FileError}
    (accepted : Request.ofArguments arguments = .ok request)
    (unread : storage.read files request.image = .error error) :
    Course files program arguments
      ⟨1, [openingLine request], [unreadableLine request error], files⟩
  | stopped {request : Request} {disk : Bytes} {reason : Abort}
    (accepted : Request.ofArguments arguments = .ok request)
    (readable : storage.read files request.image = .ok disk)
    (stops : (survey request disk).verdict = .stopped reason) :
    Course files program arguments
      ⟨1, openingLine request :: (survey request disk).lines, [reason.diagnostic], files⟩
  | absent {request : Request} {disk : Bytes}
    (accepted : Request.ofArguments arguments = .ok request)
    (readable : storage.read files request.image = .ok disk)
    (absent : (survey request disk).verdict = .absent) :
    Course files program arguments
      ⟨1, openingLine request :: (survey request disk).lines, [missingLine request], files⟩
  | shown {request : Request} {disk content : Bytes}
    (accepted : Request.ofArguments arguments = .ok request)
    (readable : storage.read files request.image = .ok disk)
    (loads : (survey request disk).verdict = .loaded content) (kept : request.output = none) :
    Course files program arguments
      ⟨0, openingLine request :: (survey request disk).lines, [], files⟩
  | written {request : Request} {disk content : Bytes} {path : String} {files' : σ}
    (accepted : Request.ofArguments arguments = .ok request)
    (readable : storage.read files request.image = .ok disk)
    (loads : (survey request disk).verdict = .loaded content) (asked : request.output = some path)
    (written : storage.write files path content = .ok files') :
    Course files program arguments
      ⟨0, openingLine request :: (survey request disk).lines ++ [writtenLine path], [], files'⟩
  | unwritten {request : Request} {disk content : Bytes} {path : String} {error : FileError}
    (accepted : Request.ofArguments arguments = .ok request)
    (readable : storage.read files request.image = .ok disk)
    (loads : (survey request disk).verdict = .loaded content) (asked : request.output = some path)
    (unwritten : storage.write files path content = .error error) :
    Course files program arguments
      ⟨1, openingLine request :: (survey request disk).lines,
        [unwrittenLine path error, missingLine request], files⟩

/-- Every run takes one of the ways. -/
theorem course (files : σ) (program : String) (arguments : List String) :
    storage.Course files program arguments (storage.runOn files program arguments) := by
  cases accepted : Request.ofArguments arguments with
  | error error =>
    rw [storage.runOn_of_refused accepted]
    exact .refused accepted
  | ok request =>
    cases readable : storage.read files request.image with
    | error error =>
      rw [storage.runOn_of_unread accepted readable]
      exact .unreadable accepted readable
    | ok disk =>
      rw [storage.runOn_of_disk accepted readable]
      cases verdict : (survey request disk).verdict with
      | stopped reason =>
        rw [settle_of_stopped storage verdict]
        exact .stopped accepted readable verdict
      | absent =>
        rw [settle_of_absent storage verdict]
        exact .absent accepted readable verdict
      | loaded content =>
        cases asked : request.output with
        | none =>
          rw [settle_of_kept storage verdict asked]
          exact .shown accepted readable verdict asked
        | some path =>
          cases written : storage.write files path content with
          | ok files' =>
            rw [settle_of_written storage verdict asked written]
            exact .written accepted readable verdict asked written
          | error error =>
            rw [settle_of_unwritten storage verdict asked written]
            exact .unwritten accepted readable verdict asked written

end Storage

end BootDisk.Command
