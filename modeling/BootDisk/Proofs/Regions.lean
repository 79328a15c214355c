import BootDisk.Proofs.Footprint
import BootDisk.Proofs.ReadOutcome
import BootDisk.Proofs.Store

/-!
# The regions of a volume

The boot area, the copies of the allocation table and the root directory lie one behind the other,
and the data region begins where the root directory ends (`tiles_metadata`). So every position in
front of the data region is in exactly one of them. The clusters lie in the data region, evenly
spaced and apart from one another (`apart_of_ne`).

What a read copies are stretches of the image that begin where a cluster does. One that ends a chain
may reach behind its cluster, but no stretch reaches back: a read whose bytes are taken from any
other byte string that agrees in the data region is the same read (`readFrom_eq_of_data`).
-/

namespace BootDisk

namespace Stretch

/-- The position behind a stretch. -/
def stop (stretch : Stretch) : Nat :=
  stretch.offset + stretch.length

/-- No position is in both stretches. -/
def Apart (stretch other : Stretch) : Prop :=
  ∀ p, stretch.Covers p → ¬ other.Covers p

/-- Stretches lie one behind the other, each where the one in front of it ends, from one position up
to another. -/
def Tiles : Nat → List Stretch → Nat → Prop
  | start, [], stop => start = stop
  | start, stretch :: rest, stop => stretch.offset = start ∧ Tiles stretch.stop rest stop

variable {start middle stop p : Nat} {stretches front back : List Stretch}

theorem Tiles.append (h : Tiles start front middle) (h' : Tiles middle back stop) :
    Tiles start (front ++ back) stop := by
  induction front generalizing start with
  | nil =>
    cases h
    exact h'
  | cons stretch front ih => exact ⟨h.1, ih h.2⟩

/-- Stretches of one length, each a length behind the one in front of it. -/
theorem tiles_range {length : Nat} (f : Nat → Stretch) (n : Nat)
    (each : ∀ i < n, f i = ⟨start + i * length, length⟩) :
    Tiles start ((List.range n).map f) (start + n * length) := by
  induction n with
  | zero => rw [Nat.zero_mul]; rfl
  | succ n ih =>
    rw [List.range_succ, List.map_append]
    refine (ih fun i before => each i (Nat.lt_succ_of_lt before)).append ?_
    rw [List.map_singleton, each n (Nat.lt_succ_self n)]
    refine ⟨rfl, ?_⟩
    show start + n * length + length = _
    rw [Nat.add_one_mul, Nat.add_assoc]

theorem Tiles.le (h : Tiles start stretches stop) : start ≤ stop := by
  induction stretches generalizing start with
  | nil => exact Nat.le_of_eq h
  | cons stretch rest ih =>
    obtain ⟨rfl, tiled⟩ := h
    exact Nat.le_trans (Nat.le_add_right ..) (ih tiled)

/-- There is no gap between the stretches. -/
theorem Tiles.exists_covers_iff (h : Tiles start stretches stop) :
    (∃ stretch ∈ stretches, stretch.Covers p) ↔ start ≤ p ∧ p < stop := by
  induction stretches generalizing start with
  | nil =>
    cases h
    simp only [List.not_mem_nil, false_and, exists_false, false_iff]
    omega
  | cons stretch rest ih =>
    obtain ⟨rfl, tiled⟩ := h
    have ahead := tiled.le
    rw [List.exists_mem_cons_iff, ih tiled]
    simp only [Covers, Stretch.stop] at ahead ⊢
    omega

/-- And they do not overlap. -/
theorem Tiles.pairwise_apart (h : Tiles start stretches stop) : stretches.Pairwise Apart := by
  induction stretches generalizing start with
  | nil => exact .nil
  | cons stretch rest ih =>
    refine .cons (fun later member p covers covers' => ?_) (ih h.2)
    have behind := (h.2.exists_covers_iff.mp ⟨later, member, covers'⟩).1
    exact Nat.not_le.mpr covers.2 behind

end Stretch

namespace Volume

variable {v : Volume}

/-- The boot area. -/
def bootArea (v : Volume) : Stretch where
  offset := 0
  length := v.parameters.reservedSectors.toNat * v.parameters.bytesPerSector.toNat

/-- A copy of the allocation table. -/
def tableArea (v : Volume) (copy : Nat) : Stretch where
  offset := v.layout.tableOffset.toNat + copy * v.tableLength
  length := v.tableLength

/-- The root directory. -/
def rootArea (v : Volume) : Stretch where
  offset := v.layout.rootOffset.toNat
  length := DirectoryEntry.recordLength * v.recordCount

/-- All that is in front of the data region. -/
def metadata (v : Volume) : List Stretch :=
  v.bootArea :: (List.range v.tableCount).map v.tableArea ++ [v.rootArea]

/-- The bytes of a cluster. -/
def clusterArea (v : Volume) (c : Cluster) : Stretch where
  offset := (v.clusterOffset c).toNat
  length := v.layout.clusterSize.toNat

/-- The copies of the table follow the boot area. -/
theorem stop_bootArea (v : Volume) : v.bootArea.stop = v.layout.tableOffset.toNat :=
  (Nat.zero_add _).trans v.parameters.toNat_reservedSize.symm

theorem tiles_metadata (v : Volume) : Stretch.Tiles 0 v.metadata v.layout.dataOffset.toNat := by
  have tables : Stretch.Tiles v.layout.tableOffset.toNat
      ((List.range v.tableCount).map v.tableArea) v.layout.rootOffset.toNat := by
    rw [show v.layout.rootOffset.toNat = _ from v.rootPosition_eq]
    exact Stretch.tiles_range v.tableArea v.tableCount fun _ _ => rfl
  have root : v.rootArea.stop = v.layout.dataOffset.toNat := by
    rw [Stretch.stop, rootArea, ← v.toNat_rootSize_eq]
    exact v.parameters.toNat_dataOffset.symm
  refine ⟨rfl, ?_⟩
  rw [v.stop_bootArea]
  exact tables.append ⟨rfl, root⟩

example (image : Bytes) :
    metadata ⟨image, ⟨2, 1, 13, 2, 1, 0, 0, 3⟩, by decide⟩ =
      [⟨0, 26⟩, ⟨26, 6⟩, ⟨32, 6⟩, ⟨38, 32⟩] :=
  rfl

/-- The clusters are in the data region. -/
theorem dataOffset_le_clusterArea (v : Volume) (c : Cluster) :
    v.layout.dataOffset.toNat ≤ (v.clusterArea c).offset := by
  show _ ≤ (v.clusterOffset c).toNat
  rw [v.toNat_clusterOffset]
  exact Nat.le_add_right ..

theorem apart_of_ne {c c' : Cluster} (other : c ≠ c') :
    (v.clusterArea c).Apart (v.clusterArea c') := by
  intro p covers covers'
  simp only [clusterArea, Stretch.Covers, toNat_clusterOffset_eq] at covers covers'
  have same := eq_of_mem_both c.two_le_toNat_index c'.two_le_toNat_index covers.1 covers.2
    covers'.1 covers'.2
  exact other (Cluster.toNat_index_inj.mp same)

/-- The clusters are evenly spaced. -/
theorem toNat_clusterOffset_next {c c' : Cluster} (next : c'.index.toNat = c.index.toNat + 1) :
    (v.clusterOffset c').toNat = (v.clusterOffset c).toNat + v.layout.clusterSize.toNat := by
  have number : c'.index.toNat - 2 = (c.index.toNat - 2) + 1 := by
    have := c.two_le_toNat_index
    omega
  rw [v.toNat_clusterOffset, v.toNat_clusterOffset, number, Nat.add_one_mul, Nat.add_assoc]

end Volume

/-! What reads copy. -/

/-- The stretch that a visited cluster supplies. -/
def Visit.source (visit : Visit) : Stretch where
  offset := visit.offset.toNat
  length := visit.length.toNat

/-- Nothing in front of a stretch matters for its bytes. -/
theorem Bytes.extract_congr {b b' : Bytes} {start : Nat} (same : ∀ p, start ≤ p → b'[p]? = b[p]?)
    (stop : Nat) : b'.extract start stop = b.extract start stop := by
  have byte (a : Bytes) (i : Nat) :
      (a.extract start stop)[i]? = if start + i < stop then a[start + i]? else none := by
    rw [Array.getElem?_extract]
    by_cases inside : start + i < a.size
    · simp only [show i < min stop a.size - start ↔ start + i < stop by omega]
    · rw [Array.getElem?_eq_none (Nat.not_lt.mp inside), if_neg (by omega), ite_self]
  apply Array.ext_getElem?
  intro i
  rw [byte, byte, same _ (Nat.le_add_right ..)]

namespace Volume

variable {v : Volume} {memory : Memory} {bytes : Bytes}

/-- The stretches that a read copies, in the order of its copies. -/
def sources (v : Volume) (first size : UInt32) : List Stretch :=
  (v.walk first.toNat size).supplied.toList.map Visit.source

/-- Copies stretches of some bytes to `position` and on, within the first `limit` bytes of the
destination. Gives the position behind the last byte. -/
def copyFrom (memory : Memory) (bytes : Bytes) (limit : Nat) :
    (position : Nat) → List Stretch → Loader Abort Nat
  | position, [] => return position
  | position, source :: rest => do
    Loader.copy memory limit position source.length (bytes.extract source.offset source.stop)
    copyFrom memory bytes limit (position + source.length) rest

/-- A read that follows its chain in the image of the volume, but copies the bytes of another byte
string. -/
def readFrom (v : Volume) (memory : Memory) (bytes : Bytes) (room : Nat) (first size : UInt32) :
    Loader Abort UInt32 := do
  let _ ← Loader.ofExcept (Cluster.ofIndex first.toNat)
  if room < size.toNat then
    Loader.fail (.destinationTooSmall size.toNat room)
  let walk := v.walk first.toNat size
  Loader.logAll (walk.visits.map fun visit =>
    .clusterVisited visit.cluster visit.offset visit.link)
  let position ← copyFrom memory bytes size.toNat 0 (v.sources first size)
  match walk.failure? with
  | some reason => Loader.fail reason
  | none => return UInt32.ofNat position

theorem copyFrom_image (memory : Memory) (limit position : Nat) (visits : List Visit) :
    copyFrom memory v.image limit position (visits.map Visit.source) =
      v.copySupplies memory limit position visits := by
  induction visits generalizing position with
  | nil => rfl
  | cons visit rest ih =>
    rw [List.map_cons, copyFrom, copySupplies, ← ih]
    rfl

/-- A read copies its sources, and takes them from the image. -/
theorem readFrom_image (v : Volume) (memory : Memory) (room : Nat) (first size : UInt32) :
    v.readFrom memory v.image room first size = v.read memory room first size := by
  have copied : copyFrom memory v.image size.toNat 0 (v.sources first size) =
      v.copySupplies memory size.toNat 0 (v.walk first.toNat size).supplied.toList :=
    copyFrom_image ..
  unfold readFrom read
  exact copied ▸ rfl

theorem copyFrom_congr {bytes' : Bytes} {start limit position : Nat} {sources : List Stretch}
    (same : ∀ p, start ≤ p → bytes'[p]? = bytes[p]?)
    (behind : ∀ source ∈ sources, start ≤ source.offset) :
    copyFrom memory bytes' limit position sources =
      copyFrom memory bytes limit position sources := by
  induction sources generalizing position with
  | nil => rfl
  | cons source rest ih =>
    obtain ⟨here, later⟩ := List.forall_mem_cons.mp behind
    have supplied := Bytes.extract_congr (fun p low => same p (Nat.le_trans here low)) source.stop
    rw [copyFrom, copyFrom, supplied, ih later]

/-- A stretch that begins where a cluster does and ends inside the image. It is no longer than the
cluster, unless that ends its chain. -/
structure BeginsAt (v : Volume) (c : Cluster) (source : Stretch) : Prop where
  offset : source.offset = (v.clusterArea c).offset
  length : source.length ≤ (v.clusterArea c).length ∨ 0xFFF8 ≤ v.wordOf c.index.toNat
  inside : source.Inside v.image

/-- Nothing is supplied along a chain that starts at no cluster. -/
theorem lt_of_mem_supplied {first : Nat} {size : UInt32} {visit : Visit}
    (member : visit ∈ (v.walk first size).supplied) : first < 65536 := by
  cases isCluster : Cluster.ofIndex first with
  | ok cluster => exact Cluster.lt_of_ofIndex isCluster
  | error reason =>
    have lost : v.visit first size.toUInt64 = .error reason := visit_of_no_cluster isCluster
    have none : (v.walk first size).supplied = #[] := by
      by_cases empty : size.toUInt64 = 0
      · rw [walk, empty, walkFrom_done]
      · rw [walk, walkFrom_of_lost empty lost]
    rw [none] at member
    exact absurd member (Array.not_mem_empty visit)

/-- All that a read copies begins where a cluster does. -/
theorem exists_beginsAt {first size : UInt32} {source : Stretch}
    (member : source ∈ v.sources first size) : ∃ c, v.BeginsAt c source := by
  obtain ⟨visit, supplied, rfl⟩ := List.mem_map.mp member
  rw [Array.mem_toList_iff] at supplied
  obtain ⟨k, isVisit, served⟩ := mem_supplied (lt_of_mem_supplied supplied) supplied
  refine ⟨visit.cluster, ?_, ?_, ?_⟩
  · show visit.offset.toNat = (v.clusterOffset visit.cluster).toNat
    rw [isVisit.offset, toNat_clusterOffset_eq, isVisit.index]
  · show visit.length.toNat ≤ v.clusterLength ∨ _
    rw [isVisit.length, isVisit.index, demand]
    split
    · exact .inr ‹_›
    · exact .inl (Nat.min_le_left ..)
  · show visit.offset.toNat + visit.length.toNat ≤ v.image.size
    rw [isVisit.offset, isVisit.length]
    exact (served_iff.mp served).2.2.2

theorem BeginsAt.dataOffset_le {c : Cluster} {source : Stretch} (h : v.BeginsAt c source) :
    v.layout.dataOffset.toNat ≤ source.offset := by
  rw [h.offset]
  exact v.dataOffset_le_clusterArea c

/-- No region in front of the data region has a byte that is copied. -/
theorem BeginsAt.apart {c : Cluster} {source region : Stretch} (h : v.BeginsAt c source)
    (member : region ∈ v.metadata) : region.Apart source := by
  intro p covers copied
  have before := (v.tiles_metadata.exists_covers_iff.mp ⟨region, member, covers⟩).2
  exact Nat.not_le.mpr before (Nat.le_trans h.dataOffset_le copied.1)

/-- A read is the same whatever is in front of the data region of the bytes that it copies. -/
theorem readFrom_eq_of_data (memory : Memory) (room : Nat) (first size : UInt32)
    (same : ∀ p, v.layout.dataOffset.toNat ≤ p → bytes[p]? = v.image[p]?) :
    v.readFrom memory bytes room first size = v.read memory room first size := by
  have behind : ∀ source ∈ v.sources first size, v.layout.dataOffset.toNat ≤ source.offset := by
    intro source member
    obtain ⟨c, begins⟩ := exists_beginsAt member
    exact begins.dataOffset_le
  rw [← readFrom_image, readFrom, readFrom, copyFrom_congr same behind]

/-- **The regions of a volume tile it, and reads stay in the last one.** The boot area, the copies
of the allocation table and the root directory lie one behind the other from the first byte of the
volume to the data region, without a gap and without an overlap. The clusters lie in the data region
from its first byte on, evenly spaced and apart from one another. Every read copies stretches of the
image that begin where a cluster does and are no longer than that unless it ends its chain; none of
them has a byte in front of the data region, so whatever else is there, the read is the same. -/
theorem regions_tile (v : Volume) (memory : Memory) :
    v.bootArea.stop = v.layout.tableOffset.toNat ∧
    Stretch.Tiles 0 v.metadata v.layout.dataOffset.toNat ∧
    (∀ p, (∃ region ∈ v.metadata, region.Covers p) ↔ p < v.layout.dataOffset.toNat) ∧
    v.metadata.Pairwise Stretch.Apart ∧
    (∀ c c', c ≠ c' → (v.clusterArea c).Apart (v.clusterArea c')) ∧
    (∀ c, v.layout.dataOffset.toNat ≤ (v.clusterArea c).offset) ∧
    (∀ c, c.index = 2 → (v.clusterArea c).offset = v.layout.dataOffset.toNat) ∧
    (∀ c c', c'.index.toNat = c.index.toNat + 1 →
      (v.clusterOffset c').toNat = (v.clusterOffset c).toNat + v.layout.clusterSize.toNat) ∧
    ∀ room first size,
      v.readFrom memory v.image room first size = v.read memory room first size ∧
      (∀ source ∈ v.sources first size,
        (∃ c, v.BeginsAt c source) ∧ ∀ region ∈ v.metadata, region.Apart source) ∧
      ∀ bytes : Bytes, (∀ p, v.layout.dataOffset.toNat ≤ p → bytes[p]? = v.image[p]?) →
        v.readFrom memory bytes room first size = v.read memory room first size := by
  refine ⟨v.stop_bootArea, v.tiles_metadata, fun p => ?_, v.tiles_metadata.pairwise_apart,
    fun c c' => apart_of_ne, v.dataOffset_le_clusterArea, fun c first => ?_,
    fun c c' => toNat_clusterOffset_next, fun room first size => ⟨?_, ?_, ?_⟩⟩
  · rw [v.tiles_metadata.exists_covers_iff, and_iff_right (Nat.zero_le p)]
  · show (v.clusterOffset c).toNat = _
    rw [v.toNat_clusterOffset, first]
    exact (congrArg _ (Nat.zero_mul _)).trans (Nat.add_zero _)
  · exact v.readFrom_image memory room first size
  · intro source member
    obtain ⟨c, begins⟩ := exists_beginsAt member
    exact ⟨⟨c, begins⟩, fun region => begins.apart⟩
  · exact fun bytes => readFrom_eq_of_data memory room first size

/-- The data region of the sample volume behind bytes that are no boot area, table or directory. -/
def blankedSample : Bytes :=
  Array.replicate 70 9 ++ sample.image.extract 70 78

/-- The last stretch of a read of five bytes is a byte longer than its cluster. It is copied from
behind the root directory all the same, and the read copies the same bytes where all in front is
blanked. -/
theorem regions_tile_sample :
    sample.metadata = [⟨0, 26⟩, ⟨26, 12⟩, ⟨38, 32⟩] ∧ sample.layout.dataOffset.toNat = 70 ∧
    sample.metadata.Pairwise Stretch.Apart ∧
    sample.sources 2 5 = [⟨70, 2⟩, ⟨74, 3⟩] ∧
    (∀ region ∈ sample.metadata, region.Apart ⟨74, 3⟩) ∧
    ((sample.readFrom .strict blankedSample 6 2 5).after
      (.start (Array.replicate 6 0))).destination = #[21, 22, 41, 42, 51, 0] := by
  obtain ⟨-, -, -, apart, -, -, -, -, reads⟩ := regions_tile sample .strict
  obtain ⟨-, stays, same⟩ := reads 6 2 5
  have sources : sample.sources 2 5 = [⟨70, 2⟩, ⟨74, 3⟩] := by decide +kernel
  have last : (⟨74, 3⟩ : Stretch) ∈ sample.sources 2 5 := by
    rw [sources]
    exact List.mem_cons_of_mem _ List.mem_cons_self
  have agrees : ∀ p, sample.layout.dataOffset.toNat ≤ p → blankedSample[p]? = sample.image[p]? := by
    have sizes : blankedSample.size = 78 ∧ sample.image.size = 78 := by decide +kernel
    have byte : ∀ p < 78, 70 ≤ p → blankedSample[p]? = sample.image[p]? := by decide +kernel
    intro p low
    rcases Nat.lt_or_ge p 78 with inside | outside
    · exact byte p inside low
    · rw [Array.getElem?_eq_none (by omega), Array.getElem?_eq_none (by omega)]
  refine ⟨by decide, by decide, apart, sources, (stays _ last).2, ?_⟩
  rw [same blankedSample agrees]
  decide +kernel

end Volume

end BootDisk
