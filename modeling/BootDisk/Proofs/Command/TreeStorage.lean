import BootDisk.Command.World
import BootDisk.Proofs.Command.Storage

/-!
# File trees as a storage

A file tree is a storage: a path that ends in a name leads to a place, and writing puts a file there
and touches no other (`FileTree.storage`). A run in the world of a tree is the run on that storage,
with the printed lines as texts (`runIn_eq`): every effect on the world follows its effect on the
tape (`Follows`).
-/

namespace BootDisk.Command

namespace FileTree

variable {tree tree' : FileTree} {path : String} {bytes : Bytes}

/-- The place that a path ends at, if it ends in a name. -/
def placeOf (tree : FileTree) (path : String) : Option Place :=
  match tree.follow path with
  | .ok (.name place name _) => some (place ++ [name])
  | _ => none

/-- What the file at a place holds. -/
def contentAt (tree : FileTree) (place : Place) : Option Bytes :=
  match tree.node place with
  | .file content => some content
  | _ => none

theorem node_of_child {place : Place} {name : String} {node : Node}
    (h : tree.child place name = .ok node) : tree.node (place ++ [name]) = node := by
  unfold child at h
  split at h
  · cases h
  · cases h
    rfl

/-- What is read is what the file holds. -/
theorem contentAt_of_read (h : tree.read path = .ok bytes) :
    ∃ i, tree.placeOf path = some i ∧ tree.contentAt i = some bytes := by
  unfold FileTree.read at h
  cases followed : tree.follow path with
  | error error =>
    rw [followed] at h
    cases h
  | ok pathEnd =>
    cases pathEnd with
    | folder =>
      rw [followed] at h
      cases h
    | name place name asFolder =>
      cases here : tree.child place name with
      | error error =>
        simp only [followed, here, bind, Except.bind] at h
        cases h
      | ok node =>
        simp only [followed, here, bind, Except.bind] at h
        cases node with
        | folder => cases h
        | nothing => cases h
        | file content =>
          cases asFolder with
          | true => cases h
          | false =>
            cases h
            exact ⟨_, by rw [placeOf, followed], by rw [contentAt, node_of_child here]⟩

/-- A written file is put at the place that its path leads to, where no folder is. -/
theorem eq_put_of_write (h : tree.write path bytes = .ok tree') :
    ∃ i, tree.placeOf path = some i ∧ tree.node i ≠ .folder ∧ tree' = tree.put i bytes := by
  unfold FileTree.write at h
  cases followed : tree.follow path with
  | error error =>
    rw [followed] at h
    cases h
  | ok pathEnd =>
    cases pathEnd with
    | folder =>
      rw [followed] at h
      cases h
    | name place name asFolder =>
      cases asFolder with
      | true =>
        rw [followed] at h
        cases h
      | false =>
        cases here : tree.child place name with
        | error error =>
          simp only [followed, here, bind, Except.bind] at h
          cases h
        | ok node =>
          simp only [followed, here, bind, Except.bind] at h
          have leads : tree.placeOf path = some (place ++ [name]) := by rw [placeOf, followed]
          have held := node_of_child here
          cases node with
          | folder => cases h
          | nothing =>
            cases h
            exact ⟨_, leads, by rw [held]; exact nofun, rfl⟩
          | file content =>
            cases h
            exact ⟨_, leads, by rw [held]; exact nofun, rfl⟩

/-- Files at other places are found where they were. -/
theorem lookup_filter_of_ne {i j : Place} (other : j ≠ i) (files : List (Place × Bytes)) :
    (files.filter (·.1 != i)).lookup j = files.lookup j := by
  induction files with
  | nil => rfl
  | cons file rest ih =>
    obtain ⟨k, content⟩ := file
    -- A file that is dropped is at `i`, so it is not the one at `j`.
    by_cases same : k = i
    · have differs : (j == k) = false := by simpa [same] using other
      rw [List.filter_cons_of_neg (by simp [same]), ih, List.lookup_cons, differs]
    · rw [List.filter_cons_of_pos (by simp [same]), List.lookup_cons, List.lookup_cons, ih]

/-- A file that is put where no folder is holds what was put there. -/
theorem contentAt_put_self {i : Place} (noFolder : tree.node i ≠ .folder) :
    (tree.put i bytes).contentAt i = some bytes := by
  have outside : ¬ (i = [] ∨ i ∈ tree.folders) := by
    intro folder
    exact noFolder (if_pos folder)
  simp only [contentAt, node, put, if_neg outside, List.lookup_cons_self]

/-- Putting a file leaves the files at other places. -/
theorem contentAt_put_of_ne {i j : Place} (other : j ≠ i) :
    (tree.put i bytes).contentAt j = tree.contentAt j := by
  have differs : (j == i) = false := by simpa using other
  simp only [contentAt, node, put, List.lookup_cons, differs, lookup_filter_of_ne other]

/-- A tree of files as a storage. -/
def storage : Storage FileTree Place where
  place := placeOf
  content := contentAt
  read := FileTree.read
  write := FileTree.write
  content_of_read := contentAt_of_read
  content_of_write h := by
    obtain ⟨i, leads, noFolder, rfl⟩ := eq_put_of_write h
    exact ⟨i, leads, contentAt_put_self noFolder, fun j other => contentAt_put_of_ne other⟩

end FileTree

/-- The text of some lines, each of them ended. -/
def unlines (lines : List String) : String :=
  lines.foldl (fun text line => text ++ line ++ "\n") ""

/-- A trace in a tree, with its lines as texts. -/
def Trace.report (trace : Trace FileTree) : Report :=
  ⟨trace.status, unlines trace.output, unlines trace.errors, trace.files⟩

theorem unlines_concat (lines : List String) (line : String) :
    unlines (lines ++ [line]) = unlines lines ++ line ++ "\n" := by
  simp [unlines]

/-- The world that a tape of a tree shows. -/
def Tape.world (tape : Tape FileTree) : World :=
  ⟨tape.files, unlines tape.output, unlines tape.errors⟩

/-- An effect on a world does what another does on the tape that shows it. -/
def Follows {α : Type} (effect : StateM World α) (taped : StateM (Tape FileTree) α) : Prop :=
  ∀ tape, effect.run tape.world = ((taped.run tape).1, (taped.run tape).2.world)

namespace Follows

variable {α β : Type}

theorem pure (a : α) : Follows (Pure.pure a) (Pure.pure a) := fun _ => rfl

theorem bind {effect : StateM World α} {taped : StateM (Tape FileTree) α}
    {next : α → StateM World β} {next' : α → StateM (Tape FileTree) β} (h : Follows effect taped)
    (h' : ∀ a, Follows (next a) (next' a)) : Follows (effect >>= next) (taped >>= next') := by
  intro tape
  have here := h tape
  have later := h' (taped.run tape).1 (taped.run tape).2
  rw [StateT.run_bind, here]
  exact later

theorem print (line : String) :
    Follows (World.host.print line) (FileTree.storage.host.print line) := by
  intro tape
  rw [Storage.run_print]
  simp only [Tape.world, unlines_concat]
  rfl

theorem complain (line : String) :
    Follows (World.host.complain line) (FileTree.storage.host.complain line) := by
  intro tape
  rw [Storage.run_complain]
  simp only [Tape.world, unlines_concat]
  rfl

theorem readFile (path : String) :
    Follows (World.host.readFile path) (FileTree.storage.host.readFile path) := fun _ => rfl

theorem writeFile (path : String) (bytes : Bytes) :
    Follows (World.host.writeFile path bytes) (FileTree.storage.host.writeFile path bytes) := by
  intro tape
  cases written : tape.files.write path bytes with
  | ok tree =>
    rw [FileTree.storage.run_writeFile_of_ok written]
    simp only [World.host, StateT.run_bind, StateT.run_get, pure_bind, Tape.world, written]
    rfl
  | error error =>
    rw [FileTree.storage.run_writeFile_of_error written]
    simp only [World.host, StateT.run_bind, StateT.run_get, pure_bind, Tape.world, written]
    rfl

theorem printAll (lines : List String) :
    Follows (World.host.printAll lines) (FileTree.storage.host.printAll lines) := by
  induction lines with
  | nil => exact pure ()
  | cons line rest ih => exact bind (print line) fun _ => ih

theorem finish (request : Request) (verdict : Verdict) :
    Follows (Command.finish World.host request verdict)
      (Command.finish FileTree.storage.host request verdict) := by
  cases verdict with
  | stopped reason => exact bind (complain _) fun _ => pure 1
  | absent => exact bind (complain _) fun _ => pure 1
  | loaded content =>
    simp only [Command.finish]
    cases request.output with
    | none => exact pure 0
    | some path =>
      refine bind (writeFile path content) fun written => ?_
      cases written with
      | ok => exact bind (print _) fun _ => pure 0
      | error error => exact bind (complain _) fun _ => bind (complain _) fun _ => pure 1

/-- A run in a world follows the run on its tape. -/
theorem run (program : String) (arguments : List String) :
    Follows (Command.run World.host program arguments)
      (Command.run FileTree.storage.host program arguments) := by
  cases accepted : Request.ofArguments arguments with
  | error error =>
    rw [run_of_no_request _ accepted, run_of_no_request _ accepted]
    exact bind (complain _) fun _ => pure 1
  | ok request =>
    rw [run_of_request _ accepted, run_of_request _ accepted]
    refine bind (print _) fun _ => bind (readFile _) fun content => ?_
    cases content with
    | error error => exact bind (complain _) fun _ => pure 1
    | ok disk => exact bind (printAll _) fun _ => finish request _

end Follows

/-- A run in the world of a tree leaves what the run on the tree as a storage leaves. -/
theorem runIn_eq (tree : FileTree) (program : String) (arguments : List String) :
    runIn tree program arguments = (FileTree.storage.runOn tree program arguments).report := by
  have follows : (run World.host program arguments).run ⟨tree, "", ""⟩ = _ :=
    Follows.run program arguments ⟨tree, [], []⟩
  rw [runIn, follows]
  rfl

end BootDisk.Command
