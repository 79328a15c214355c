import BootDisk.Proofs.Command.Effects

/-!
# The grammar of a command line

The words behind the image fall into groups: `--out` takes the word behind it, whatever that is,
`--mbr` stands alone, and any other word names a file. There is one way only to split words like
that (`splits_iff`). A request is what the groups make of the request for the image alone, one after
the other (`withOptions_eq`), and of repeated ones the last counts (`foldl_apply`), so a run is told
by the image and three things about the groups (`run_by_groups`).
-/

namespace BootDisk.Command

/-- Words on a command line that belong together. -/
inductive Group where
  /-- The partition that the boot record lists is asked for. -/
  | bootRecord
  /-- A place to write the file to. -/
  | output (path : String)
  /-- A place was to come, but no word is left. -/
  | openOutput
  | file (path : String)
  deriving DecidableEq

namespace Group

/-- The words of a group. -/
def words : Group → List String
  | bootRecord => ["--mbr"]
  | output path => ["--out", path]
  | openOutput => ["--out"]
  | file path => [path]

/-- The file that a group names. -/
def file? : Group → Option String
  | file path => some path
  | _ => none

/-- The place to write to that a group names. -/
def output? : Group → Option String
  | output path => some path
  | _ => none

end Group

/-- Some words split into groups: they are the words of the groups, one behind the other, no group
names a file by a word that asks for something else, and a group without its word is the last. -/
structure Splits (words : List String) (groups : List Group) : Prop where
  words_eq : groups.flatMap Group.words = words
  file_other : ∀ path, .file path ∈ groups → path ≠ "--mbr" ∧ path ≠ "--out"
  open_last : ∀ front back, groups = front ++ .openOutput :: back → back = []

/-- The groups of some words, from left to right. -/
def split : List String → List Group
  | [] => []
  | word :: rest =>
    if word = "--mbr" then .bootRecord :: split rest
    else if word = "--out" then
      match rest with
      | [] => [.openOutput]
      | path :: rest => .output path :: split rest
    else .file word :: split rest

/-- The last file that groups name, or that of the standard settings. -/
def fileOf (groups : List Group) : String :=
  (groups.filterMap Group.file?).getLast?.getD Settings.standard.kernelPath

/-- The last place to write to that groups name. -/
def outputOf (groups : List Group) : Option String :=
  (groups.filterMap Group.output?).getLast?

/-- How groups say that the partition is found. -/
def partitionOf (groups : List Group) : PartitionLookup :=
  if .bootRecord ∈ groups then .bootRecord else .atOffset 0

/-- The request that groups make for an image. -/
def requestOf (image : String) (groups : List Group) : Request :=
  ⟨image, partitionOf groups, fileOf groups, outputOf groups⟩

section Splitting

variable {word path : String} {rest words : List String} {group : Group} {groups : List Group}

theorem split_bootRecord (rest : List String) : split ("--mbr" :: rest) = .bootRecord :: split rest := by
  rw [split.eq_def]
  exact if_pos rfl

theorem split_output (path : String) (rest : List String) :
    split ("--out" :: path :: rest) = .output path :: split rest := by
  rw [split.eq_def]
  exact (if_neg (by decide)).trans (if_pos rfl)

theorem split_openOutput : split ["--out"] = [.openOutput] := by
  rw [split, if_neg (by decide), if_pos rfl]

theorem split_file (other : word ≠ "--mbr" ∧ word ≠ "--out") :
    split (word :: rest) = .file word :: split rest := by
  rw [split.eq_def]
  exact (if_neg other.1).trans (if_neg other.2)

theorem splits_nil : Splits [] [] where
  words_eq := rfl
  file_other := nofun
  open_last front back same := by
    cases front <;> cases same

theorem splits_openOutput : Splits ["--out"] [.openOutput] where
  words_eq := rfl
  file_other path member := by
    cases List.mem_singleton.mp member
  open_last front back same := by
    cases front with
    | nil => exact (List.cons.inj same).2.symm
    | cons group front =>
      have := (List.cons.inj same).2
      cases front <;> cases this

/-- A group with all its words may stand in front. -/
theorem Splits.cons (group : Group) (h : Splits words groups) (whole : group ≠ .openOutput)
    (other : ∀ path, group = .file path → path ≠ "--mbr" ∧ path ≠ "--out") :
    Splits (group.words ++ words) (group :: groups) where
  words_eq := by rw [List.flatMap_cons, h.words_eq]
  file_other path member := by
    rcases List.mem_cons.mp member with same | member
    · exact other path same.symm
    · exact h.file_other path member
  open_last front back same := by
    cases front with
    | nil => exact absurd (List.cons.inj same).1 whole
    | cons group' front => exact h.open_last front back (List.cons.inj same).2

/-- What is behind the first group splits into the other groups. -/
theorem Splits.tail (h : Splits words (group :: groups)) :
    Splits (groups.flatMap Group.words) groups where
  words_eq := rfl
  file_other path member := h.file_other path (List.mem_cons_of_mem _ member)
  open_last front back same := h.open_last (group :: front) back (by rw [same]; rfl)

theorem splits_split (words : List String) : Splits words (split words) := by
  fun_induction split words with
  | case1 => exact splits_nil
  | case2 rest ih => exact ih.cons .bootRecord nofun nofun
  | case3 => exact splits_openOutput
  | case4 path rest _ ih => exact ih.cons (.output path) nofun nofun
  | case5 word rest notRecord notOutput ih =>
    refine ih.cons (.file word) nofun ?_
    rintro path ⟨⟩
    exact ⟨notRecord, notOutput⟩

/-- Words split in one way only. -/
theorem splits_iff : Splits words groups ↔ groups = split words := by
  refine ⟨?_, fun same => same ▸ splits_split words⟩
  intro h
  induction groups generalizing words with
  | nil =>
    cases h.words_eq
    rfl
  | cons group groups ih =>
    have behind := ih h.tail
    have words_eq := h.words_eq
    rw [List.flatMap_cons] at words_eq
    subst words_eq
    cases group with
    | bootRecord => exact (congrArg _ behind).trans (split_bootRecord _).symm
    | output path => exact (congrArg _ behind).trans (split_output path _).symm
    | openOutput =>
      cases h.open_last [] groups rfl
      exact split_openOutput.symm
    | file path =>
      exact (congrArg _ behind).trans (split_file (h.file_other path List.mem_cons_self)).symm

/-- A group without its word is the last one. -/
theorem openOutput_mem_split_iff :
    .openOutput ∈ split words ↔ (split words).getLast? = some .openOutput := by
  constructor
  · intro member
    obtain ⟨front, back, same⟩ := List.append_of_mem member
    cases (splits_split words).open_last front back same
    rw [same, List.getLast?_concat]
  · exact List.mem_of_getLast?

end Splitting

section Requests

variable {word : String} {rest : List String} {request : Request}

/-- The request changed by a group. -/
def Request.apply (request : Request) : Group → Request
  | .bootRecord => { request with partition := .bootRecord }
  | .output path => { request with output := some path }
  | .openOutput => request
  | .file path => { request with file := path }

theorem withOptions_bootRecord (request : Request) (rest : List String) :
    request.withOptions ("--mbr" :: rest) =
      { request with partition := .bootRecord }.withOptions rest := by
  rw [Request.withOptions.eq_def]
  exact if_pos rfl

theorem withOptions_output (request : Request) (path : String) (rest : List String) :
    request.withOptions ("--out" :: path :: rest) =
      { request with output := some path }.withOptions rest := by
  rw [Request.withOptions.eq_def]
  exact (if_neg (by decide)).trans (if_pos rfl)

theorem withOptions_file (other : word ≠ "--mbr" ∧ word ≠ "--out") :
    request.withOptions (word :: rest) = { request with file := word }.withOptions rest := by
  rw [Request.withOptions.eq_def]
  exact (if_neg other.1).trans (if_neg other.2)

/-- Options change a request as their groups do, one after the other. -/
theorem withOptions_eq (request : Request) (words : List String) :
    request.withOptions words =
      if .openOutput ∈ split words then .error .noOutputPath
      else .ok ((split words).foldl Request.apply request) := by
  fun_induction split words generalizing request with
  | case1 => rw [Request.withOptions, if_neg List.not_mem_nil, List.foldl_nil]
  | case2 rest ih =>
    rw [withOptions_bootRecord, ih]
    simp [Request.apply]
  | case3 =>
    rw [Request.withOptions, if_neg (by decide), if_pos rfl, if_pos List.mem_cons_self]
  | case4 path rest _ ih =>
    rw [withOptions_output, ih]
    simp [Request.apply]
  | case5 word rest notRecord notOutput ih =>
    rw [withOptions_file ⟨notRecord, notOutput⟩, ih]
    simp [Request.apply]

/-- Of groups that say the same kind of thing, the last counts. -/
theorem foldl_apply (request : Request) (groups : List Group) :
    groups.foldl Request.apply request =
      { image := request.image
        partition := if .bootRecord ∈ groups then .bootRecord else request.partition
        file := (groups.filterMap Group.file?).getLast?.getD request.file
        output := (groups.filterMap Group.output?).getLast?.or request.output } := by
  -- The last group changes what those in front of it have made.
  induction groups using List.reverseRecOn with
  | nil => rfl
  | append_singleton groups group ih =>
    rw [List.foldl_append, ih, List.filterMap_append, List.filterMap_append]
    cases group with
    | bootRecord => simp [Request.apply, Group.file?, Group.output?]
    | output path => simp [Request.apply, Group.file?, Group.output?]
    | openOutput => simp [Request.apply, Group.file?, Group.output?]
    | file path => simp [Request.apply, Group.file?, Group.output?]

theorem foldl_forImage (image : String) (groups : List Group) :
    groups.foldl Request.apply (.forImage image) = requestOf image groups := by
  rw [foldl_apply, requestOf, partitionOf, fileOf, outputOf, Request.forImage, Option.or_none]

theorem ofArguments_eq (image : String) (options : List String) :
    Request.ofArguments (image :: options) =
      if (split options).getLast? = some .openOutput then .error .noOutputPath
      else .ok (requestOf image (split options)) := by
  rw [Request.ofArguments, withOptions_eq, foldl_forImage]
  simp only [openOutput_mem_split_iff]

theorem ofArguments_of_open (image : String) {options : List String}
    (unfinished : (split options).getLast? = some .openOutput) :
    Request.ofArguments (image :: options) = .error .noOutputPath := by
  rw [ofArguments_eq, if_pos unfinished]

theorem ofArguments_of_whole (image : String) {options : List String}
    (whole : (split options).getLast? ≠ some .openOutput) :
    Request.ofArguments (image :: options) = .ok (requestOf image (split options)) := by
  rw [ofArguments_eq, if_neg whole]

end Requests

/-- Groups agree on all that a request takes from them. -/
structure Agree (groups groups' : List Group) : Prop where
  bootRecord_iff : .bootRecord ∈ groups ↔ .bootRecord ∈ groups'
  file_eq : fileOf groups = fileOf groups'
  output_eq : outputOf groups = outputOf groups'

theorem Agree.requestOf_eq {groups groups' : List Group} (h : Agree groups groups') (image : String) :
    requestOf image groups = requestOf image groups' := by
  simp only [requestOf, partitionOf, h.bootRecord_iff, h.file_eq, h.output_eq]

/-- The groups of some words may be put in another order and written down again, if none of them is
unfinished. -/
theorem split_flatMap_of_perm {options : List String} {groups : List Group}
    (whole : (split options).getLast? ≠ some .openOutput) (reordered : groups.Perm (split options)) :
    split (groups.flatMap Group.words) = groups := by
  refine (splits_iff.mp ⟨rfl, ?_, ?_⟩).symm
  · intro path member
    exact (splits_split options).file_other path (reordered.mem_iff.mp member)
  · rintro front back rfl
    have member := reordered.mem_iff.mp (List.mem_append_right front List.mem_cons_self)
    exact absurd (openOutput_mem_split_iff.mp member) whole

/-- Of requests that are the same, the runs are the same. -/
theorem run_congr {m : Type → Type} [Monad m] (host : Host m) (program program' : String)
    {arguments arguments' : List String} {request : Request}
    (accepted : Request.ofArguments arguments = .ok request)
    (accepted' : Request.ofArguments arguments' = .ok request) :
    run host program arguments = run host program' arguments' := by
  rw [run, run, accepted, accepted']

/-- **What a run takes from a command line.** The words behind the image split into groups in one
way. If the last group lacks its word, a run complains about that and does nothing else, whatever
its surroundings are. If not, the run goes by the image, by whether some group asks for the boot
record, by the last file and by the last place to write to: options that agree on these run alike,
and so do the same groups in another order. -/
theorem run_by_groups (image : String) (options : List String) :
    (∀ groups, Splits options groups ↔ groups = split options) ∧
    ((split options).getLast? = some .openOutput →
      (∀ {m : Type → Type} [Monad m] (host : Host m) (program : String),
        run host program (image :: options) = (do
          host.complain "--out requires a path"
          return 1)) ∧
      ∀ {σ ι : Type} (storage : Storage σ ι) (files : σ) (program : String),
        storage.runOn files program (image :: options) =
          ⟨1, [], ["--out requires a path"], files⟩) ∧
    ((split options).getLast? ≠ some .openOutput →
      Request.ofArguments (image :: options) = .ok (requestOf image (split options)) ∧
      (∀ options', (split options').getLast? ≠ some .openOutput →
        Agree (split options) (split options') →
          (∀ {m : Type → Type} [Monad m] (host : Host m) (program program' : String),
            run host program (image :: options) = run host program' (image :: options')) ∧
          ∀ {σ ι : Type} (storage : Storage σ ι) (files : σ) (program program' : String),
            storage.runOn files program (image :: options) =
              storage.runOn files program' (image :: options')) ∧
      ∀ groups, groups.Perm (split options) → fileOf groups = fileOf (split options) →
        outputOf groups = outputOf (split options) →
          ∀ {m : Type → Type} [Monad m] (host : Host m) (program program' : String),
            run host program (image :: options) =
              run host program' (image :: groups.flatMap Group.words)) := by
  refine ⟨fun groups => splits_iff, ?_, ?_⟩
  · intro unfinished
    have refused := ofArguments_of_open image unfinished
    exact ⟨fun host program => run_of_no_request host refused,
      fun storage files program => storage.runOn_of_refused refused⟩
  · intro whole
    have accepted := ofArguments_of_whole image whole
    refine ⟨accepted, ?_, ?_⟩
    · intro options' whole' agree
      have accepted' := ofArguments_of_whole image whole'
      rw [← agree.requestOf_eq] at accepted'
      refine ⟨fun host program program' => run_congr host program program' accepted accepted', ?_⟩
      intro σ ι storage files program program'
      rw [Storage.runOn, Storage.runOn, run_congr storage.host program program' accepted accepted']
    · intro groups reordered file_eq output_eq m _ host program program'
      have groups_eq := split_flatMap_of_perm whole reordered
      have whole' : (split (groups.flatMap Group.words)).getLast? ≠ some .openOutput := by
        rw [ne_eq, ← openOutput_mem_split_iff, groups_eq, reordered.mem_iff, openOutput_mem_split_iff]
        exact whole
      have accepted' := ofArguments_of_whole image whole'
      have agree : Agree (split options) groups :=
        ⟨reordered.mem_iff.symm, file_eq.symm, output_eq.symm⟩
      rw [groups_eq, ← agree.requestOf_eq] at accepted'
      exact run_congr host program program' accepted accepted'

/-- A place to write to may be called `--mbr`, files and places may be named again, and the groups
may stand in another order. -/
theorem run_by_groups_sampleTree :
    split ["A.C", "--out", "--mbr", "A.B", "--out", "out"] =
      [.file "A.C", .output "--mbr", .file "A.B", .output "out"] ∧
    FileTree.storage.runOn Storage.sampleTree "load" ["disk", "A.B", "--out"] =
      ⟨1, [], ["--out requires a path"], Storage.sampleTree⟩ ∧
    FileTree.storage.runOn Storage.sampleTree "load"
        ["disk", "A.C", "--out", "--mbr", "A.B", "--out", "out"] =
      FileTree.storage.runOn Storage.sampleTree "again" ["disk", "--out", "out", "A.B"] ∧
    run FileTree.storage.host "load" ["disk", "--mbr", "A.B", "--out", "out"] =
      run FileTree.storage.host "load" ["disk", "--out", "out", "A.B", "--mbr"] := by
  refine ⟨by decide, ?_, ?_, ?_⟩
  · exact ((run_by_groups "disk" ["A.B", "--out"]).2.1 (by decide)).2 _ _ _
  · exact (((run_by_groups "disk" ["A.C", "--out", "--mbr", "A.B", "--out", "out"]).2.2
      (by decide)).2.1 ["--out", "out", "A.B"] (by decide) ⟨by decide, by decide, by decide⟩).2 _ _ _ _
  · exact ((run_by_groups "disk" ["--mbr", "A.B", "--out", "out"]).2.2 (by decide)).2.2
      [.output "out", .file "A.B", .bootRecord] (by decide) (by decide) (by decide) _ _ _

end BootDisk.Command
