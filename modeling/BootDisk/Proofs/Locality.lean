import BootDisk.Proofs.Footprint
import Mathlib

/-!
# Loads depend on their footprint only

Two disks that agree on the footprint of a load load alike: with the same result, the same
destination and the same log. Stage by stage, the second disk is looked at in the same places and
shows the same bytes there. How long the disks are does not matter, as long as the load on the first
does not run out of bounds and the second reaches as far as the footprint does.
-/

namespace BootDisk

/-- Two byte strings hold the same in each of some stretches. -/
def Bytes.SameOn (b b' : Bytes) (stretches : List Stretch) : Prop :=
  ∀ stretch ∈ stretches, b.SameStretch b' stretch.offset stretch.length

theorem Bytes.sameOn_cons {b b' : Bytes} {stretch : Stretch} {rest : List Stretch} :
    b.SameOn b' (stretch :: rest) ↔
      b.SameStretch b' stretch.offset stretch.length ∧ b.SameOn b' rest :=
  List.forall_mem_cons

namespace Volume

variable {v : Volume} {image' : Bytes} {memory : Memory} {w : Workspace}

/-- The bytes that a cluster is to supply are in the footprint of its visit, unless it is bad. -/
theorem span_of_sameOn {visit : Visit} (notBad : visit.link ≠ .bad)
    (same : v.image.SameOn image' (v.visitFootprint visit)) :
    v.image.SameStretch image' visit.offset.toNat visit.length.toNat := by
  have span := (Bytes.sameOn_cons.mp same).2
  rw [if_neg notBad] at span
  exact span _ List.mem_cons_self

/-! What a volume finds in the stretches that another image has too. -/

theorem contains_onImage {offset length : UInt64}
    (same : v.image.SameStretch image' offset.toNat length.toNat) :
    (v.onImage image').contains offset length = v.contains offset length := by
  rw [Bool.eq_iff_iff, contains_iff, contains_iff]
  constructor
  · intro h
    exact ⟨h.1, same.inside⟩
  · intro h
    exact ⟨h.1, same.inside'⟩

theorem slice?_onImage {offset length : UInt64}
    (same : v.image.SameStretch image' offset.toNat length.toNat) :
    (v.onImage image').slice? offset length = v.slice? offset length := by
  rw [slice?, slice?, contains_onImage same]
  exact congrArg (if v.contains offset length then · else none) same.window?_eq

theorem tableWord_onImage {c : Cluster}
    (same : v.image.SameStretch image' (v.linkOffset c).toNat 2) :
    (v.onImage image').tableWord c = v.tableWord c := by
  have word : (v.onImage image').slice? (v.linkOffset c) 2 = v.slice? (v.linkOffset c) 2 :=
    slice?_onImage same
  rw [tableWord, tableWord, linkOffset_onImage, word]

theorem directory_onImage
    (same : v.image.SameStretch image' v.layout.rootOffset.toNat v.layout.rootSize.toNat) :
    (v.onImage image').directory = v.directory := by
  have region : (v.onImage image').slice? v.layout.rootOffset v.layout.rootSize =
      v.slice? v.layout.rootOffset v.layout.rootSize := slice?_onImage same
  cases found : v.slice? v.layout.rootOffset v.layout.rootSize with
  | none =>
    rw [found] at region
    simp only [directory, layout_onImage, found, region]
  | some bytes =>
    rw [found] at region
    simp only [directory, layout_onImage, found, region]

theorem supply_onImage {visit : Visit}
    (same : v.image.SameStretch image' visit.offset.toNat visit.length.toNat) :
    (v.onImage image').supply visit = v.supply visit :=
  same.extract_eq

/-! Walks. -/

theorem visit_onImage_of_ok {index : Nat} {wanted : UInt64} {visit : Visit}
    (visited : v.visit index wanted = .ok visit)
    (same : v.image.SameOn image' (v.visitFootprint visit)) :
    (v.onImage image').visit index wanted = .ok visit := by
  cases isCluster : Cluster.ofIndex index with
  | error reason =>
    rw [visit_of_no_cluster isCluster] at visited
    cases visited
  | ok cluster =>
    cases hasWord : v.tableWord cluster with
    | error reason =>
      rw [visit_of_no_word isCluster hasWord] at visited
      cases visited
    | ok word =>
      rw [visit_of_word isCluster hasWord] at visited
      cases visited
      have hasWord' := (tableWord_onImage (Bytes.sameOn_cons.mp same).1).trans hasWord
      rw [visit_of_word isCluster hasWord']
      rfl

/-- A cluster that is lost other than by its word being out of bounds is lost on any image. -/
theorem visit_onImage_of_lost {index : Nat} {wanted : UInt64} {reason : Abort}
    (lost : v.visit index wanted = .error reason)
    (inBounds : ∀ offset length, reason ≠ .outOfBounds offset length) :
    (v.onImage image').visit index wanted = .error reason := by
  cases isCluster : Cluster.ofIndex index with
  | error reason' =>
    rw [visit_of_no_cluster isCluster] at lost ⊢
    exact lost
  | ok cluster =>
    cases hasWord : v.tableWord cluster with
    | error reason' =>
      rw [visit_of_no_word isCluster hasWord] at lost
      cases lost
      rw [tableWord_eq] at hasWord
      split at hasWord
      · cases hasWord
        exact absurd rfl (inBounds _ _)
      · cases hasWord
    | ok word =>
      rw [visit_of_word isCluster hasWord] at lost
      cases lost

theorem checkSupply_onImage {visit : Visit}
    (same : v.image.SameOn image' (v.visitFootprint visit)) :
    (v.onImage image').checkSupply visit = v.checkSupply visit := by
  unfold checkSupply
  split
  · rfl
  · rename_i notBad
    rw [contains_onImage (span_of_sameOn notBad same)]

/-- A walk keeps the visits it has. -/
theorem mem_visits_walkFrom {visit : Visit} {index : Nat} {wanted : UInt64}
    {supplied : Array Visit} (member : visit ∈ supplied) :
    visit ∈ (v.walkFrom index wanted supplied).visits := by
  fun_induction v.walkFrom index wanted supplied with
  | case1 => exact member
  | case2 => exact member
  | case3 index wanted supplied some last visited reason refused =>
    exact Array.mem_push_of_mem _ member
  | case4 index wanted supplied some last visited served next link fewer ih =>
    exact ih (Array.mem_push_of_mem _ member)
  | case5 index wanted supplied some last visited served link =>
    exact Array.mem_push_of_mem _ member

/-- A walk that does not run out of bounds goes the same way wherever its footprint is the same. -/
theorem walkFrom_onImage {index : Nat} {wanted : UInt64} {supplied : Array Visit}
    (same : ∀ visit ∈ (v.walkFrom index wanted supplied).visits,
      v.image.SameOn image' (v.visitFootprint visit))
    (inBounds : ∀ offset length, (v.walkFrom index wanted supplied).failure? ≠
      some (.outOfBounds offset length)) :
    (v.onImage image').walkFrom index wanted supplied = v.walkFrom index wanted supplied := by
  fun_induction v.walkFrom index wanted supplied with
  | case1 index supplied => exact walkFrom_done ..
  | case2 index wanted supplied some reason lost =>
    have again : (v.onImage image').visit index wanted = .error reason := by
      apply visit_onImage_of_lost lost
      intro offset length outside
      exact inBounds offset length (congrArg Option.some outside)
    rw [walkFrom_of_lost some again]
  | case3 index wanted supplied some visit visited reason refused =>
    have sameVisit := same visit Array.mem_push_self
    rw [walkFrom_of_visit some (visit_onImage_of_ok visited sameVisit),
      checkSupply_onImage sameVisit, refused]
  | case4 index wanted supplied some visit visited served next link fewer ih =>
    have sameVisit := same visit (mem_visits_walkFrom Array.mem_push_self)
    rw [walkFrom_of_visit some (visit_onImage_of_ok visited sameVisit),
      checkSupply_onImage sameVisit, served]
    simp only [link]
    exact ih same inBounds
  | case5 index wanted supplied some visit visited served link =>
    have sameVisit := same visit Array.mem_push_self
    rw [walkFrom_of_visit some (visit_onImage_of_ok visited sameVisit),
      checkSupply_onImage sameVisit, served]
    dsimp only
    split
    · rename_i next isNext
      exact absurd isNext (link next)
    · rfl

/-! Reads and loads. -/

theorem mem_visits_of_mem_supplied {walk : Walk} {visit : Visit}
    (member : visit ∈ walk.supplied) : visit ∈ walk.visits := by
  unfold Walk.visits
  split
  · exact Array.mem_push_of_mem _ member
  · exact member

theorem supplies_onImage {visits : List Visit}
    (same : ∀ visit ∈ visits, (v.onImage image').supply visit = v.supply visit) :
    (v.onImage image').supplies visits = v.supplies visits := by
  induction visits with
  | nil => rfl
  | cons visit rest ih =>
    obtain ⟨here, later⟩ := List.forall_mem_cons.mp same
    rw [supplies, supplies, here, ih later]

/-- A walk that is supplied alike is delivered alike. -/
theorem deliver_onImage {walk : Walk}
    (same : ∀ visit ∈ walk.supplied, (v.onImage image').supply visit = v.supply visit) :
    (v.onImage image').deliver walk w = v.deliver walk w := by
  have gathered : (v.onImage image').gather walk = v.gather walk := by
    rw [gather_eq, gather_eq]
    apply supplies_onImage
    intro visit member
    exact same visit (Array.mem_toList_iff.mp member)
  have copied : (walk.supplied.map fun visit => ((v.onImage image').supply visit).size) =
      walk.supplied.map fun visit => (v.supply visit).size := by
    apply Array.map_congr_left
    intro visit member
    rw [same visit member]
  rw [deliver, deliver, gathered, copied]

/-- A read that does not run out of bounds reads the same wherever its footprint is the same. -/
theorem read_onImage {first size : UInt32}
    (same : v.image.SameOn image' (v.readFootprint w.destination.size first size))
    (inBounds : ∀ offset length w', v.read memory w.destination.size first size w ≠
      .error (.failure (.outOfBounds offset length)) w') :
    (v.onImage image').read memory w.destination.size first size w =
      v.read memory w.destination.size first size w := by
  cases isCluster : Cluster.ofIndex first.toNat with
  | error reason => rw [read_of_no_cluster isCluster, read_of_no_cluster isCluster]
  | ok cluster =>
    rcases Nat.lt_or_ge w.destination.size size.toNat with noRoom | fits
    · rw [read_of_no_room isCluster noRoom, read_of_no_room isCluster noRoom]
    · have small := Cluster.lt_of_ofIndex isCluster
      have ended : v.read memory w.destination.size first size w = _ :=
        read_of_walk isCluster fits (Nat.le_refl _)
      rw [readFootprint, isCluster] at same
      simp only [if_neg (Nat.not_lt.mpr fits)] at same
      have visits : ∀ visit ∈ (v.walk first.toNat size).visits,
          v.image.SameOn image' (v.visitFootprint visit) := by
        intro visit member stretch inFootprint
        exact same stretch
          (List.mem_flatMap.mpr ⟨visit, Array.mem_toList_iff.mpr member, inFootprint⟩)
      have walked : (v.onImage image').walk first.toNat size = v.walk first.toNat size := by
        apply walkFrom_onImage visits
        intro offset length failed
        rw [show (v.walk first.toNat size).failure? = _ from failed] at ended
        exact inBounds _ _ _ ended
      have delivered : (v.onImage image').deliver (v.walk first.toNat size) w =
          v.deliver (v.walk first.toNat size) w := by
        apply deliver_onImage
        intro visit member
        apply supply_onImage
        obtain ⟨k, isVisit, served⟩ := mem_supplied small member
        have notBad : visit.link ≠ .bad := by
          intro bad
          exact (served_iff.mp served).2.2.1 (isVisit.link_eq_bad_iff.mp bad)
        exact span_of_sameOn notBad (visits visit (mem_visits_of_mem_supplied member))
      rw [ended, read_of_walk isCluster fits (Nat.le_refl _), walked, delivered]

/-- A load that does not run out of bounds loads the same wherever its footprint is the same. -/
theorem load_onImage {path : String}
    (same : v.image.SameOn image' (v.loadFootprint w.destination.size path))
    (inBounds : ∀ offset length w', v.load memory path w ≠
      .error (.failure (.abort (.outOfBounds offset length))) w') :
    (v.onImage image').load memory path w = v.load memory path w := by
  cases isName : ShortName.ofPath? path with
  | none => rw [load, load, loadInto_of_no_name isName, loadInto_of_no_name isName]
  | some name =>
    rcases Nat.lt_or_ge v.image.size
      (v.rootPosition + DirectoryEntry.recordLength * v.recordCount) with outside | inside
    · exact absurd (loadInto_of_no_directory isName (directory_eq_error outside)) (inBounds _ _ w)
    · obtain ⟨entries, hasEntries⟩ : ∃ entries, v.directory = .ok entries :=
        ⟨_, directory_eq_ok inside⟩
      cases found : DirectoryEntry.named? name entries with
      | none =>
        rw [loadFootprint_of_absent isName hasEntries found] at same
        have hasEntries' := (directory_onImage (Bytes.sameOn_cons.mp same).1).trans hasEntries
        rw [load, load, loadInto_of_absent isName hasEntries found,
          loadInto_of_absent isName hasEntries' found]
      | some entry =>
        rw [loadFootprint_of_entry isName hasEntries found] at same
        obtain ⟨root, rest⟩ := Bytes.sameOn_cons.mp same
        have hasEntries' := (directory_onImage root).trans hasEntries
        have loaded : v.load memory path w = _ :=
          loadInto_of_entry isName hasEntries found (wholeRoom_eq ..) (Nat.le_refl _)
        have loaded' : (v.onImage image').load memory path w = _ :=
          loadInto_of_entry isName hasEntries' found (wholeRoom_eq ..) (Nat.le_refl _)
        rw [loaded] at inBounds
        rw [loaded, loaded']
        apply Loader.restate_congr
        refine read_onImage (w := w.scanned name entries) rest ?_
        intro offset length w' failed
        exact inBounds offset length w' (Loader.restate_failure failed)

end Volume

namespace Kernel

variable {settings : Settings} {disk disk' image image' : Bytes} {start : UInt64} {w : Workspace}

/-- The same boot record lists the same partition. -/
theorem firstSector_of_sameStretch (same : disk.SameStretch disk' Partition.sectorOffset 4) :
    Partition.firstSector disk' = Partition.firstSector disk := by
  rw [Partition.firstSector, Partition.firstSector, same.window?_eq]

theorem settle_congr {attempt attempt' : Loader LoadError UInt32}
    (same : attempt' w = attempt w) : settle settings attempt' w = settle settings attempt w := by
  simp only [settle, Loader.orRecover, bind, EStateM.bind, same]

theorem loadImage_of_sameOn
    (same : image.SameOn image' (imageFootprint settings w.destination.size image))
    (inBounds : ∀ offset length w', loadImage settings image w ≠
      .error (.failure (.outOfBounds offset length)) w') :
    loadImage settings image' w = loadImage settings image w := by
  cases right : BootParameters.requireSignature image settings.signatureOffset
      settings.signature with
  | error reason =>
    rw [imageFootprint_of_no_signature right] at same
    have signature := (Bytes.sameOn_cons.mp same).1
    have right' := (BootParameters.requireSignature_of_sameStretch settings.signature
      signature).trans right
    rw [loadImage_of_no_volume (Volume.ofImage_of_no_signature right),
      loadImage_of_no_volume (Volume.ofImage_of_no_signature right')]
  | ok =>
    cases opened : Volume.ofImage image settings with
    | error reason =>
      rw [imageFootprint_of_no_volume right opened] at same
      obtain ⟨signature, rest⟩ := Bytes.sameOn_cons.mp same
      have closed := Volume.ofImage_of_sameStretch signature (Bytes.sameOn_cons.mp rest).1
      rw [opened] at closed
      rw [loadImage_of_no_volume opened, loadImage_of_no_volume closed]
    | ok v =>
      rw [imageFootprint_of_volume opened] at same
      obtain ⟨signature, rest⟩ := Bytes.sameOn_cons.mp same
      obtain ⟨header, rest⟩ := Bytes.sameOn_cons.mp rest
      have opened' := Volume.ofImage_of_sameStretch signature header
      rw [opened] at opened'
      obtain ⟨-, -, -, rfl, -⟩ := Volume.eq_of_ofImage opened
      rw [loadImage_of_volume opened] at inBounds
      rw [loadImage_of_volume opened, loadImage_of_volume opened']
      apply settle_congr
      refine Volume.load_onImage rest ?_
      intro offset length w' failed
      exact inBounds offset length w' (settle_of_abort failed)

/-- What is the same on two disks is the same in the partitions at one offset. -/
theorem sameStretch_extract {offset length : Nat} {begin : Nat}
    (same : disk.SameStretch disk' (begin + offset) length) :
    Bytes.SameStretch (disk.extract begin disk.size) (disk'.extract begin disk'.size)
      offset length := by
  have inside := same.inside
  have inside' := same.inside'
  refine ⟨by rw [Array.size_extract]; omega, by rw [Array.size_extract]; omega, ?_⟩
  intro i low high
  rw [Array.getElem?_extract, Array.getElem?_extract, if_pos (by omega), if_pos (by omega),
    same.same _ (by omega) (by omega)]

theorem loadAt_of_sameOn
    (same : disk.SameOn disk' (footprintAt settings w.destination.size disk start))
    (inBounds : ∀ offset length w', loadAt settings disk start w ≠
      .error (.failure (.outOfBounds offset length)) w') :
    loadAt settings disk' start w = loadAt settings disk start w := by
  rcases Nat.lt_or_ge disk.size start.toNat with outside | inside
  · exact absurd (loadAt_of_outside outside) (inBounds _ _ w)
  · rw [footprintAt_of_inside inside] at same
    have sameImage : Bytes.SameOn (disk.extract start.toNat disk.size)
        (disk'.extract start.toNat disk'.size)
        (imageFootprint settings w.destination.size (disk.extract start.toNat disk.size)) := by
      intro stretch member
      exact sameStretch_extract (same _ (List.mem_map_of_mem member))
    -- The signature is looked at in any case, so the other disk has the start too.
    have inside' : start.toNat ≤ disk'.size := by
      have signature := (same _ (List.mem_map_of_mem List.mem_cons_self)).inside'
      simp only [Stretch.shift] at signature
      omega
    rw [loadAt_of_inside inside] at inBounds
    rw [loadAt_of_inside inside, loadAt_of_inside inside']
    exact loadImage_of_sameOn sameImage inBounds

/-- A load that does not run out of bounds goes the same way on every disk that has its
footprint. -/
theorem load_of_sameOn
    (same : disk.SameOn disk' (footprint settings w.destination.size disk))
    (inBounds : ∀ offset length w', load settings disk w ≠
      .error (.failure (.outOfBounds offset length)) w') :
    load settings disk' w = load settings disk w := by
  cases lookup : settings.partition with
  | atOffset start =>
    rw [footprint_atOffset lookup] at same
    rw [load_atOffset lookup] at inBounds
    rw [load_atOffset lookup, load_atOffset lookup]
    exact loadAt_of_sameOn (w := w.logged .kernelWanted) same inBounds
  | bootRecord =>
    cases found : Partition.firstSector disk with
    | error reason =>
      rw [footprint_bootRecord_of_error lookup found] at same
      have found' := (firstSector_of_sameStretch
        (Bytes.sameOn_cons.mp same).1).trans found
      rw [load_bootRecord_of_error lookup found, load_bootRecord_of_error lookup found']
    | ok sector =>
      rw [footprint_bootRecord_of_sector lookup found] at same
      obtain ⟨recorded, rest⟩ := Bytes.sameOn_cons.mp same
      have found' := (firstSector_of_sameStretch recorded).trans found
      rw [load_bootRecord_of_sector lookup found] at inBounds
      rw [load_bootRecord_of_sector lookup found, load_bootRecord_of_sector lookup found']
      exact loadAt_of_sameOn (w := (w.logged .kernelWanted).logged (.partitionListed sector)) rest
        inBounds

/-- Another disk shows the same bytes in a stretch, and if the stretch is empty it reaches as far as
the stretch does. -/
structure Shows (disk disk' : Bytes) (stretch : Stretch) : Prop where
  same : ∀ p, stretch.Covers p → p < disk'.size ∧ disk'[p]? = disk[p]?
  reaches : stretch.length = 0 → stretch.Inside disk'

theorem Shows.sameStretch {stretch : Stretch} (h : Shows disk disk' stretch)
    (inside : stretch.Inside disk) : disk.SameStretch disk' stretch.offset stretch.length := by
  refine ⟨inside, ?_, fun p low high => (h.same p ⟨low, high⟩).2⟩
  rcases Nat.eq_zero_or_pos stretch.length with empty | some
  · exact h.reaches empty
  · -- The last position of the stretch is on the other disk.
    have last := (h.same (stretch.offset + stretch.length - 1) ⟨by omega, by omega⟩).1
    omega

/-- **A load depends on its footprint only.** If loading the kernel from a disk does not run out of
bounds, then from every disk that shows the same bytes in the footprint of that load it ends in the
same way: with the same size or for the same reason, and with the same destination and log. So
bytes behind the end of the disk do not matter, and neither do any bytes outside the footprint. -/
theorem load_eq_of_footprint (settings : Settings) (disk : Bytes) (w : Workspace)
    (inBounds : ∀ offset length w', load settings disk w ≠
      .error (.failure (.outOfBounds offset length)) w') :
    (∀ disk' : Bytes,
      (∀ stretch ∈ footprint settings w.destination.size disk, Shows disk disk' stretch) →
        load settings disk' w = load settings disk w) ∧
    (∀ suffix : Bytes, load settings (disk ++ suffix) w = load settings disk w) ∧
    ∀ disk' : Bytes, disk'.size = disk.size →
      (∀ stretch ∈ footprint settings w.destination.size disk, ∀ p, stretch.Covers p →
        disk'[p]? = disk[p]?) → load settings disk' w = load settings disk w := by
  have inside := footprint_inside inBounds
  refine ⟨?_, ?_, ?_⟩
  · intro disk' shown
    apply load_of_sameOn _ inBounds
    intro stretch member
    exact (shown stretch member).sameStretch (inside stretch member)
  · intro suffix
    apply load_of_sameOn _ inBounds
    intro stretch member
    have fits : stretch.offset + stretch.length ≤ disk.size := inside stretch member
    refine ⟨fits, by rw [Array.size_append]; omega, ?_⟩
    intro p low high
    rw [Array.getElem?_append_left (by omega)]
  · intro disk' sameSize same
    apply load_of_sameOn _ inBounds
    intro stretch member
    have fits : stretch.offset + stretch.length ≤ disk.size := inside stretch member
    refine ⟨fits, by omega, ?_⟩
    intro p low high
    exact same stretch member p ⟨low, high⟩

/-- A disk with two bytes in front of its partition, and a file of three bytes in the clusters 3
and 2. -/
def sampleDisk : Bytes :=
  #[7, 7, 0, 0, 0, 0, 0, 0, 0, 0, 0, 0, 0, 2, 0, 1, 13, 0, 1, 1, 0, 0, 0, 0, 4, 0, 0x55, 0xAA,
    0, 0, 0, 0, 0xFF, 0xFF, 2, 0, 0x41, 0x20, 0x20, 0x20, 0x20, 0x20, 0x20, 0x20, 0x42, 0x20, 0x20,
    0x20, 0, 0, 0, 0, 0, 0, 0, 0, 0, 0, 0, 0, 0, 0, 3, 0, 3, 0, 0, 0, 63, 64, 61, 62]

/-- Settings for the sample disk. -/
def sampleDiskSettings : Settings :=
  { Settings.standard with partition := .atOffset 2, signatureOffset := 24, kernelPath := "A.B" }

example : footprint sampleDiskSettings 4 sampleDisk =
    [⟨26, 2⟩, ⟨2, 24⟩, ⟨36, 32⟩, ⟨34, 2⟩, ⟨70, 2⟩, ⟨32, 2⟩, ⟨68, 1⟩] := by
  decide +kernel

/-- A load from the sample disk minds neither another byte in front of the partition nor more bytes
behind the clusters. -/
theorem load_sampleDisk_eq :
    (∀ offset length w', load sampleDiskSettings sampleDisk (.start (Array.replicate 4 9)) ≠
      .error (.failure (.outOfBounds offset length)) w') ∧
    ∃ w', w'.destination = #[61, 62, 63, 9] ∧
      load sampleDiskSettings (sampleDisk ++ #[1, 2]) (.start (Array.replicate 4 9)) = .ok 3 w' ∧
      load sampleDiskSettings (sampleDisk.setIfInBounds 0 8 ++ #[1, 2])
        (.start (Array.replicate 4 9)) = .ok 3 w' := by
  have loaded : load sampleDiskSettings sampleDisk (.start (Array.replicate 4 9)) =
      .ok 3 ⟨#[61, 62, 63, 9], #[.kernelWanted, .volumeOpened ⟨2, 1, 13, 1, 1, 0, 0, 4⟩,
        .entryFound ⟨⟨#v[0x41, 0x20, 0x20, 0x20, 0x20, 0x20, 0x20, 0x20], #v[0x42, 0x20, 0x20]⟩,
          0x20, 3, 3⟩,
        .clusterVisited ⟨3, by decide⟩ 68 (.next 2), .clusterVisited ⟨2, by decide⟩ 66 .last,
        .kernelLoaded "A.B" 3], 2, #[2, 1]⟩ := by cbv
  have inBounds : ∀ offset length w',
      load sampleDiskSettings sampleDisk (.start (Array.replicate 4 9)) ≠
        .error (.failure (.outOfBounds offset length)) w' := by
    intro offset length w' failed
    rw [loaded] at failed
    cases failed
  have alike := load_eq_of_footprint sampleDiskSettings sampleDisk
    (.start (Array.replicate 4 9)) inBounds
  refine ⟨inBounds, _, rfl, (alike.2.1 _).trans loaded, (alike.1 _ ?_).trans loaded⟩
  intro stretch member
  have place : 2 ≤ stretch.offset ∧ stretch.offset + stretch.length ≤ 72 := by
    have all : ∀ stretch ∈ footprint sampleDiskSettings 4 sampleDisk,
        2 ≤ stretch.offset ∧ stretch.offset + stretch.length ≤ 72 := by decide +kernel
    exact all stretch member
  have size : (sampleDisk.setIfInBounds 0 8).size = 72 := rfl
  constructor
  · rintro p ⟨low, high⟩
    constructor
    · rw [Array.size_append]
      omega
    · rw [Array.getElem?_append_left (by omega), Array.getElem?_setIfInBounds_ne (by omega)]
  · intro _
    rw [Stretch.Inside, Array.size_append]
    omega

end Kernel

end BootDisk
