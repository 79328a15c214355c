import BootDisk.Proofs.Directory
import BootDisk.Proofs.Opening
import BootDisk.Proofs.Stages

/-!
# The footprint of a load

The stretches of a disk that loading the kernel from it looks at. What a stage looks at depends on
what the stages before it found: there is no header to look at behind a wrong signature, no root
directory for a path that is no name, and the chain tells which words of the table and which
clusters are read. A load that does not run out of bounds has all of its footprint inside the disk
(`Kernel.footprint_inside`).
-/

namespace BootDisk

/-- A stretch of bytes. -/
structure Stretch where
  offset : Nat
  length : Nat
  deriving DecidableEq

namespace Stretch

/-- Whether a position is in a stretch. -/
def Covers (stretch : Stretch) (p : Nat) : Prop :=
  stretch.offset ≤ p ∧ p < stretch.offset + stretch.length

/-- Whether a stretch is inside a byte string, all the way to its end. -/
def Inside (stretch : Stretch) (b : Bytes) : Prop :=
  stretch.offset + stretch.length ≤ b.size

/-- The same stretch, seen from `start` bytes in front. -/
def shift (start : Nat) (stretch : Stretch) : Stretch :=
  { stretch with offset := start + stretch.offset }

end Stretch

namespace Volume

/-- A visit looks at the table word of its cluster and, unless the cluster is bad, at the bytes the
cluster is to supply. -/
def visitFootprint (v : Volume) (visit : Visit) : List Stretch :=
  ⟨(v.linkOffset visit.cluster).toNat, 2⟩ ::
    if visit.link = .bad then [] else [⟨visit.offset.toNat, visit.length.toNat⟩]

/-- A read looks at what its visits look at, if it comes to visit a cluster. -/
def readFootprint (v : Volume) (room : Nat) (first size : UInt32) : List Stretch :=
  match Cluster.ofIndex first.toNat with
  | .error _ => []
  | .ok _ =>
    if room < size.toNat then []
    else (v.walk first.toNat size).visits.toList.flatMap v.visitFootprint

/-- A load looks at the root directory if its path is a name, and then at what the read of the entry
looks at. -/
def loadFootprint (v : Volume) (room : Nat) (path : String) : List Stretch :=
  match ShortName.ofPath? path with
  | none => []
  | some name =>
    ⟨v.layout.rootOffset.toNat, v.layout.rootSize.toNat⟩ ::
      match v.directory with
      | .error _ => []
      | .ok entries =>
        match DirectoryEntry.named? name entries with
        | none => []
        | some entry => v.readFootprint room entry.cluster.toUInt32 entry.size

variable {v : Volume} {w : Workspace}

section LoadFootprint

variable {room : Nat} {path : String} {name : ShortName} {entries : List DirectoryEntry}

theorem loadFootprint_of_no_name (noName : ShortName.ofPath? path = none) :
    v.loadFootprint room path = [] := by
  rw [loadFootprint, noName]

theorem loadFootprint_of_absent (isName : ShortName.ofPath? path = some name)
    (hasEntries : v.directory = .ok entries) (absent : DirectoryEntry.named? name entries = none) :
    v.loadFootprint room path = [⟨v.layout.rootOffset.toNat, v.layout.rootSize.toNat⟩] := by
  simp only [loadFootprint, isName, hasEntries, absent]

theorem loadFootprint_of_entry {entry : DirectoryEntry}
    (isName : ShortName.ofPath? path = some name) (hasEntries : v.directory = .ok entries)
    (found : DirectoryEntry.named? name entries = some entry) :
    v.loadFootprint room path =
      ⟨v.layout.rootOffset.toNat, v.layout.rootSize.toNat⟩ ::
        v.readFootprint room entry.cluster.toUInt32 entry.size := by
  simp only [loadFootprint, isName, hasEntries, found]

end LoadFootprint

/-- Every visit of a walk is a visit of the chain. It is served, or the walk failed because it is
not. -/
theorem mem_visits {first : Nat} {size : UInt32} (small : first < 65536) {visit : Visit}
    (member : visit ∈ (v.walk first size).visits) :
    ∃ k, v.IsVisit (v.chain first k) (size.toNat - k * v.clusterLength) visit ∧
      (v.refusal? (v.chain first k) (size.toNat - k * v.clusterLength) = none ∨
        v.refusal? (v.chain first k) (size.toNat - k * v.clusterLength) =
          (v.walk first size).failure?) := by
  by_cases supplied : visit ∈ (v.walk first size).supplied
  · obtain ⟨k, isVisit, served⟩ := mem_supplied small supplied
    exact ⟨k, isVisit, .inl served⟩
  · rcases v.walk_cases small size with ⟨k, reason, broken⟩ | ⟨n, arrived⟩
    · rcases broken.ending with ⟨ending, -⟩ | ⟨last, ending, isVisit⟩
      · rw [Walk.visits, ending] at member
        exact absurd member supplied
      · rw [Walk.visits, ending] at member
        obtain rfl := (Array.mem_push.mp member).resolve_left supplied
        exact ⟨k, isVisit, .inr (broken.fails.refused.trans broken.failure?_eq.symm)⟩
    · rw [Walk.visits, arrived.ending] at member
      exact absurd member supplied

/-- The link of a visit is that of a bad cluster exactly if the cluster is marked bad. -/
theorem IsVisit.link_eq_bad_iff {c wanted : Nat} {visit : Visit} (h : v.IsVisit c wanted visit) :
    visit.link = .bad ↔ v.wordOf c = 0xFFF7 := by
  have number : (UInt16.ofNat (v.wordOf c)).toNat = v.wordOf c :=
    UInt16.toNat_ofNat_of_lt' (v.wordOf_lt c)
  rw [h.link, Link.ofWord_eq_bad_iff, ← UInt16.toNat_inj, number]
  rfl

/-- A visit that is not refused for being out of bounds has its footprint in the image. -/
theorem IsVisit.footprint_inside {c wanted : Nat} {visit : Visit} (h : v.IsVisit c wanted visit)
    (inBounds : ∀ offset length, v.refusal? c wanted ≠ some (.outOfBounds offset length)) :
    ∀ stretch ∈ v.visitFootprint visit, stretch.Inside v.image := by
  have word := h.word_inside
  have valid := h.valid
  intro stretch member
  rcases List.mem_cons.mp member with rfl | member
  · simp only [Stretch.Inside, toNat_linkOffset_eq, h.index]
    exact word
  · split at member
    · cases member
    · rename_i notBad
      rw [h.link_eq_bad_iff] at notBad
      obtain rfl := List.mem_singleton.mp member
      simp only [Stretch.Inside, h.offset, h.length]
      apply Nat.not_lt.mp
      intro outside
      apply inBounds (v.dataPosition c) (v.demand c wanted)
      rw [refusal?, if_neg (by omega), if_neg (by omega), if_neg notBad, if_pos outside]

/-- A read that does not run out of bounds has its footprint in the image. -/
theorem readFootprint_inside (memory : Memory) {first size : UInt32}
    (inBounds : ∀ offset length w', v.read memory w.destination.size first size w ≠
      .error (.failure (.outOfBounds offset length)) w') :
    ∀ stretch ∈ v.readFootprint w.destination.size first size, stretch.Inside v.image := by
  intro stretch member
  unfold readFootprint at member
  split at member
  · cases member
  · rename_i cluster isCluster
    split at member
    · cases member
    · rename_i fits
      have small := Cluster.lt_of_ofIndex isCluster
      obtain ⟨visit, visited, member⟩ := List.mem_flatMap.mp member
      obtain ⟨k, isVisit, outcome⟩ := mem_visits small (Array.mem_toList_iff.mp visited)
      refine isVisit.footprint_inside ?_ stretch member
      intro offset length refused
      rcases outcome with served | failed
      · rw [served] at refused
        cases refused
      · rw [failed] at refused
        have ended : v.read memory w.destination.size first size w = _ :=
          read_of_walk isCluster (Nat.not_lt.mp fits) (Nat.le_refl _)
        rw [refused] at ended
        exact inBounds offset length _ ended

/-- A load that does not run out of bounds has its footprint in the image. -/
theorem loadFootprint_inside (memory : Memory) {path : String}
    (inBounds : ∀ offset length w', v.load memory path w ≠
      .error (.failure (.abort (.outOfBounds offset length))) w') :
    ∀ stretch ∈ v.loadFootprint w.destination.size path, stretch.Inside v.image := by
  cases isName : ShortName.ofPath? path with
  | none =>
    rw [loadFootprint_of_no_name isName]
    exact nofun
  | some name =>
    rcases Nat.lt_or_ge v.image.size
      (v.rootPosition + DirectoryEntry.recordLength * v.recordCount) with outside | inside
    · exact absurd (loadInto_of_no_directory isName (directory_eq_error outside)) (inBounds _ _ w)
    · obtain ⟨entries, hasEntries⟩ : ∃ entries, v.directory = .ok entries :=
        ⟨_, directory_eq_ok inside⟩
      have root : (⟨v.layout.rootOffset.toNat, v.layout.rootSize.toNat⟩ : Stretch).Inside
          v.image := by
        rw [Stretch.Inside, toNat_rootSize_eq]
        exact inside
      cases found : DirectoryEntry.named? name entries with
      | none =>
        rw [loadFootprint_of_absent isName hasEntries found]
        exact List.forall_mem_singleton.mpr root
      | some entry =>
        have loaded : v.load memory path w = _ :=
          loadInto_of_entry isName hasEntries found (wholeRoom_eq ..) (Nat.le_refl _)
        rw [loaded] at inBounds
        rw [loadFootprint_of_entry isName hasEntries found]
        refine List.forall_mem_cons.mpr ⟨root, ?_⟩
        apply readFootprint_inside memory (w := w.scanned name entries)
        intro offset length w' failed
        exact inBounds offset length w' (Loader.restate_failure failed)

end Volume

namespace Kernel

/-- Opening an image looks at the signature, and behind a right one at the header; loading from the
volume comes after that. -/
def imageFootprint (settings : Settings) (room : Nat) (image : Bytes) : List Stretch :=
  ⟨settings.signatureOffset.toNat, 2⟩ ::
    match BootParameters.requireSignature image settings.signatureOffset settings.signature with
    | .error _ => []
    | .ok () =>
      ⟨0, BootParameters.headerLength⟩ ::
        match Volume.ofImage image settings with
        | .error _ => []
        | .ok v => v.loadFootprint room settings.kernelPath

/-- What a load looks at in the partition that starts at an offset. -/
def footprintAt (settings : Settings) (room : Nat) (disk : Bytes) (start : UInt64) : List Stretch :=
  match Partition.startingAt disk start with
  | .error _ => []
  | .ok partition => (imageFootprint settings room partition.image).map (.shift start.toNat)

/-- What loading the kernel from a disk looks at, into a destination with `room` bytes. -/
def footprint (settings : Settings) (room : Nat) (disk : Bytes) : List Stretch :=
  match settings.partition with
  | .atOffset start => footprintAt settings room disk start
  | .bootRecord =>
    ⟨Partition.sectorOffset, 4⟩ ::
      match Partition.firstSector disk with
      | .error _ => []
      | .ok sector => footprintAt settings room disk (sector.toUInt64 * Partition.sectorLength)

variable {settings : Settings} {disk image : Bytes} {start : UInt64} {w : Workspace} {room : Nat}

theorem imageFootprint_of_no_signature {reason : Abort}
    (wrong : BootParameters.requireSignature image settings.signatureOffset settings.signature =
      .error reason) :
    imageFootprint settings room image = [⟨settings.signatureOffset.toNat, 2⟩] := by
  simp only [imageFootprint, wrong]

theorem imageFootprint_of_no_volume {reason : Abort}
    (right : BootParameters.requireSignature image settings.signatureOffset settings.signature =
      .ok ()) (closed : Volume.ofImage image settings = .error reason) :
    imageFootprint settings room image =
      [⟨settings.signatureOffset.toNat, 2⟩, ⟨0, BootParameters.headerLength⟩] := by
  simp only [imageFootprint, right, closed]

theorem imageFootprint_of_volume {v : Volume} (opened : Volume.ofImage image settings = .ok v) :
    imageFootprint settings room image =
      ⟨settings.signatureOffset.toNat, 2⟩ :: ⟨0, BootParameters.headerLength⟩ ::
        v.loadFootprint room settings.kernelPath := by
  simp only [imageFootprint, (Volume.eq_of_ofImage opened).1, opened]

/-- Opening and loading without running out of bounds has its footprint in the image. -/
theorem imageFootprint_inside
    (inBounds : ∀ offset length w', loadImage settings image w ≠
      .error (.failure (.outOfBounds offset length)) w') :
    ∀ stretch ∈ imageFootprint settings w.destination.size image, stretch.Inside image := by
  have signed : settings.signatureOffset.toNat + 2 ≤ image.size := by
    apply Nat.not_lt.mp
    intro outside
    have wrong := BootParameters.requireSignature_of_outside settings.signature outside
    exact inBounds _ _ _ (loadImage_of_no_volume (Volume.ofImage_of_no_signature wrong))
  cases right : BootParameters.requireSignature image settings.signatureOffset
      settings.signature with
  | error reason =>
    rw [imageFootprint_of_no_signature right]
    exact List.forall_mem_singleton.mpr signed
  | ok =>
    have headed : 0 + BootParameters.headerLength ≤ image.size := by
      apply Nat.not_lt.mp
      intro outside
      have closed := Volume.ofImage_of_signature right
      rw [Bytes.window?_eq_none_iff.mpr outside] at closed
      exact inBounds _ _ _ (loadImage_of_no_volume closed)
    cases opened : Volume.ofImage image settings with
    | error reason =>
      rw [imageFootprint_of_no_volume right opened]
      exact List.forall_mem_cons.mpr ⟨signed, List.forall_mem_singleton.mpr headed⟩
    | ok v =>
      rw [loadImage_of_volume opened] at inBounds
      rw [imageFootprint_of_volume opened]
      obtain ⟨-, -, -, rfl, -⟩ := Volume.eq_of_ofImage opened
      refine List.forall_mem_cons.mpr ⟨signed, List.forall_mem_cons.mpr ⟨headed, ?_⟩⟩
      apply Volume.loadFootprint_inside .strict (w := w.logged (.volumeOpened v.parameters))
      intro offset length w' failed
      exact inBounds offset length w' (settle_of_abort failed)

theorem footprintAt_of_inside (inside : start.toNat ≤ disk.size) :
    footprintAt settings room disk start =
      (imageFootprint settings room (disk.extract start.toNat disk.size)).map
        (.shift start.toNat) := by
  simp only [footprintAt, Partition.startingAt, if_pos inside]

/-- A stretch inside a partition is on the disk. -/
theorem shift_inside {stretch : Stretch} (start : Nat) (begins : start ≤ disk.size)
    (inside : stretch.Inside (disk.extract start disk.size)) :
    (stretch.shift start).Inside disk := by
  simp only [Stretch.Inside, Stretch.shift, Array.size_extract] at inside ⊢
  omega

theorem footprintAt_inside
    (inBounds : ∀ offset length w', loadAt settings disk start w ≠
      .error (.failure (.outOfBounds offset length)) w') :
    ∀ stretch ∈ footprintAt settings w.destination.size disk start, stretch.Inside disk := by
  rcases Nat.lt_or_ge disk.size start.toNat with outside | inside
  · exact absurd (loadAt_of_outside outside) (inBounds _ _ w)
  · rw [footprintAt_of_inside inside]
    rw [loadAt_of_inside inside] at inBounds
    refine List.forall_mem_map.mpr ?_
    intro stretch member
    exact shift_inside start.toNat inside (imageFootprint_inside inBounds stretch member)

theorem footprint_atOffset (given : settings.partition = .atOffset start) :
    footprint settings room disk = footprintAt settings room disk start := by
  simp only [footprint, given]

theorem footprint_bootRecord_of_error {reason : Abort} (listed : settings.partition = .bootRecord)
    (none : Partition.firstSector disk = .error reason) :
    footprint settings room disk = [⟨Partition.sectorOffset, 4⟩] := by
  simp only [footprint, listed, none]

theorem footprint_bootRecord_of_sector {sector : UInt32} (listed : settings.partition = .bootRecord)
    (found : Partition.firstSector disk = .ok sector) :
    footprint settings room disk = ⟨Partition.sectorOffset, 4⟩ ::
      footprintAt settings room disk (sector.toUInt64 * Partition.sectorLength) := by
  simp only [footprint, listed, found]

/-- A load that does not run out of bounds has its footprint on the disk. -/
theorem footprint_inside
    (inBounds : ∀ offset length w', load settings disk w ≠
      .error (.failure (.outOfBounds offset length)) w') :
    ∀ stretch ∈ footprint settings w.destination.size disk, stretch.Inside disk := by
  cases lookup : settings.partition with
  | atOffset start =>
    rw [load_atOffset lookup] at inBounds
    rw [footprint_atOffset lookup]
    exact footprintAt_inside (w := w.logged .kernelWanted) inBounds
  | bootRecord =>
    have recorded : Partition.sectorOffset + 4 ≤ disk.size := by
      apply Nat.not_lt.mp
      intro outside
      have none : Partition.firstSector disk = .error (.outOfBounds Partition.sectorOffset 4) := by
        rw [Partition.firstSector, Bytes.window?_eq_none_iff.mpr outside]
      exact inBounds _ _ _ (load_bootRecord_of_error lookup none)
    cases found : Partition.firstSector disk with
    | error reason =>
      rw [footprint_bootRecord_of_error lookup found]
      exact List.forall_mem_singleton.mpr recorded
    | ok sector =>
      rw [load_bootRecord_of_sector lookup found] at inBounds
      rw [footprint_bootRecord_of_sector lookup found]
      exact List.forall_mem_cons.mpr ⟨recorded, footprintAt_inside
        (w := (w.logged .kernelWanted).logged (.partitionListed sector)) inBounds⟩

end Kernel

end BootDisk
