import BootDisk.Command.FileTree
import BootDisk.Command.Run

/-!
# A world for the command

A run changes nothing but a tree of files and what was printed. `World` holds these as data, so that
a run is a function from a tree to a `Report`.
-/

namespace BootDisk.Command

/-- A tree of files and the printed texts. -/
structure World where
  tree : FileTree
  output : String
  errors : String
  deriving DecidableEq

namespace World

/-- The effects of the command on a world. -/
def host : Host (StateM World) where
  print line := modify fun w => { w with output := w.output ++ line ++ "\n" }
  complain line := modify fun w => { w with errors := w.errors ++ line ++ "\n" }
  readFile path := return (← get).tree.read path
  writeFile path content := do
    let w ← get
    match w.tree.write path content with
    | .ok tree =>
      set { w with tree }
      return .ok ()
    | .error error => return .error error

end World

/-- What a run leaves behind. -/
structure Report where
  status : UInt32
  output : String
  errors : String
  tree : FileTree
  deriving DecidableEq

/-- Runs the command on a tree. -/
def runIn (tree : FileTree) (program : String) (arguments : List String) : Report :=
  let (status, w) := (run World.host program arguments).run ⟨tree, "", ""⟩
  ⟨status, w.output, w.errors, w.tree⟩

end BootDisk.Command
