import BootDisk.Proofs.Bare.Read
import BootDisk.Proofs.Checked.Volume
import BootDisk.Proofs.Operations
import BootDisk.Proofs.Turns

/-!
# Reads with checked numbers

A read counts its bytes and seeks its clusters in words. Here the loop is run with checked numbers:
every sum, product and difference of a turn is taken of numbers, the count is only narrowed if it
fits, and no stretch is looked at that ends at the horizon or behind it. The checked loop is the
bare loop of numbers (`readOn_eq`), so a checked read is the read and meets no overrun (`read_eq`).
With the layout, the offsets and the root directory this says that no word of a volume wraps
(`arithmetic_is_exact`).
-/

namespace BootDisk.Checked

open Loader

variable {v : Volume} {size : UInt32}

/-- The cluster with a given number, the offset of its bytes and its link. -/
def seek (v : Volume) (index : UInt32) : Loader Reason (Cluster × UInt64 × Link) := do
  let cluster ← (Loader.ofExcept (Cluster.ofIndex index.toNat)).restate .abort
  let offset ← ofChecked (clusterOffset v cluster)
  let position ← ofChecked (linkOffset v cluster)
  let raw ← view v position 2
  let word ← ofAccess (Bare.word16 raw)
  return (cluster, offset, Link.ofWord word)

/-- Every turn leaves fewer bytes to be read. -/
theorem turn_lt (v : Volume) (link : Link) {read remaining behind : UInt64}
    (more : read < size.toUInt64) (left : remaining.toNat + read.toNat = size.toUInt64.toNat)
    (sum : behind.toNat = read.toNat + (v.supplyLength link remaining).toNat) :
    size.toNat - behind.toNat < size.toNat - read.toNat := by
  have fewer := Bare.turn_lt v link (UInt64.lt_iff_toNat_lt.mp more) left
  rwa [UInt64.ofNat_toNat, ← sum] at fewer

/-- Goes on reading from the cluster with a given number, once `read` of `size` bytes are read.
Gives the number of bytes read in all. -/
def readOn (v : Volume) (size index : UInt32) (read : UInt64) : Loader Reason UInt64 :=
  if more : read < size.toUInt64 then do
    let (cluster, offset, link) ← seek v index
    log (.clusterVisited cluster offset link)
    if link = .bad then
      fail (.abort (.badCluster cluster.index.toNat))
    else
      let ⟨remaining, left⟩ ← ofChecked (difference size.toUInt64 read)
      let length := v.supplyLength link remaining
      let source ← view v offset length
      let ⟨behind, sum⟩ ← ofChecked (sum read length)
      copy .strict size.toNat read.toNat length.toNat source
      have := turn_lt v link more left sum
      match link with
      | .next next => readOn v size next.toUInt32 behind
      | _ => return behind
  else
    return read
termination_by size.toNat - read.toNat

/-- Reads `size` bytes of the chain that starts at `first` into the first bytes of a destination of
which `room` bytes may be written. -/
def read (v : Volume) (room : Nat) (first size : UInt32) : Loader Reason UInt32 := do
  let _ ← (Loader.ofExcept (Cluster.ofIndex first.toNat)).restate .abort
  if room < size.toNat then
    fail (.abort (.destinationTooSmall size.toNat room))
  let whole ← readOn v size first 0
  let ⟨read, _⟩ ← ofChecked (narrow whole)
  return read

theorem seek_eq (v : Volume) (index : UInt32) :
    seek v index = (Bare.seek v index.toNat).restate .abort := by
  unfold seek Bare.seek
  simp only [restate_bind]
  congr 1
  funext cluster
  have low : Cluster.firstIndex ≤ cluster.index.toNat := cluster.two_le_toNat_index
  have near : (v.linkOffset cluster).toNat + (2 : UInt64).toNat < horizon := by
    have := v.wordPosition_lt cluster.index.toNat_lt
    have : (2 : UInt64).toNat = 2 := rfl
    rw [v.toNat_linkOffset_eq, horizon]
    omega
  rw [clusterOffset_eq, linkOffset_eq, ofChecked_ok_bind, ofChecked_ok_bind, view_eq near,
    Bare.difference_eq_ok low]
  simp only [restate_ofAccess, ofAccess_ok_bind, Bare.offset_eq, restate_pure]

/-- What is read with a visit is a word. -/
theorem toNat_behind {index : Nat} {read : UInt64} {visit : Visit} (more : read.toNat < size.toNat)
    (visited : v.visit index (UInt64.ofNat (size.toNat - read.toNat)) = .ok visit) :
    (read + visit.length).toNat = read.toNat + visit.length.toNat := by
  have short := Volume.length_le visited
  have := size.toNat_lt
  rw [UInt64.toNat_add]
  omega

/-- A turn that makes a visit copies what the visit supplies, if it is to supply it. -/
theorem readOn_of_visit {index : UInt32} {read : UInt64} {visit : Visit}
    (more : read.toNat < size.toNat)
    (visited : v.visit index.toNat (UInt64.ofNat (size.toNat - read.toNat)) = .ok visit) :
    readOn v size index read = (do
      log (.clusterVisited visit.cluster visit.offset visit.link)
      (Loader.ofExcept (v.checkSupply visit)).restate .abort
      copy .strict size.toNat read.toNat visit.length.toNat (v.supply visit)
      match visit.link with
      | .next next => readOn v size next.toUInt32 (read + visit.length)
      | _ => return read + visit.length) := by
  have left : difference size.toUInt64 read = .ok ⟨UInt64.ofNat (size.toNat - read.toNat), _⟩ :=
    difference_eq_ok (by rw [UInt32.toNat_toUInt64, Nat.add_comm]; exact Volume.add_rest more)
  have length := v.length_of_visit visited
  have near : visit.offset.toNat + visit.length.toNat < horizon := by
    refine supply_near ?_ visited
    rw [Volume.toNat_rest]
    exact Nat.lt_of_le_of_lt (Nat.sub_le ..) size.toNat_lt
  have sought : seek v index = pure (visit.cluster, visit.offset, visit.link) := by
    rw [seek_eq, Bare.seek_of_visit visited]
    rfl
  have exact : (read + v.supplyLength visit.link (UInt64.ofNat (size.toNat - read.toNat))).toNat =
      read.toNat + (v.supplyLength visit.link (UInt64.ofNat (size.toNat - read.toNat))).toNat := by
    rw [← length]
    exact toNat_behind more visited
  rw [readOn, dif_pos (by rwa [UInt64.lt_iff_toNat_lt, UInt32.toNat_toUInt64]), sought]
  simp only [pure_bind, left, sum_eq_ok exact, ofChecked_ok_bind]
  simp only [← length, view_eq near]
  unfold Volume.checkSupply
  by_cases bad : visit.link = .bad
  · simp only [if_pos bad]
    rfl
  · simp only [if_neg bad]
    by_cases inside : v.contains visit.offset visit.length = true
    · rw [Bare.view_of_contains inside, if_pos inside]
      rfl
    · rw [Bare.view_of_not_contains inside, if_neg inside]
      rfl

theorem readOn_of_lost {index : UInt32} {read : UInt64} {reason : Abort}
    (more : read.toNat < size.toNat)
    (lost : v.visit index.toNat (UInt64.ofNat (size.toNat - read.toNat)) = .error reason) :
    readOn v size index read = fail (.abort reason) := by
  rw [readOn, dif_pos (by rwa [UInt64.lt_iff_toNat_lt, UInt32.toNat_toUInt64]), seek_eq,
    Bare.seek_of_lost lost]
  rfl

/-- A checked read goes on as a bare read does, and counts in words what that counts in numbers. The
induction is on what is still to be read. -/
theorem readOn_eq (v : Volume) (size index : UInt32) (read : UInt64) :
    UInt64.toNat <$> readOn v size index read =
      (Bare.readOn v size index.toNat read.toNat).restate .abort := by
  induction rest : size.toNat - read.toNat using Nat.strongRecOn generalizing index read with
  | ind rest ih =>
    subst rest
    rcases Nat.lt_or_ge read.toNat size.toNat with more | all
    · cases visited : v.visit index.toNat (UInt64.ofNat (size.toNat - read.toNat)) with
      | error reason =>
        rw [Bare.readOn_of_lost more visited, readOn_of_lost more visited]
        rfl
      | ok visit =>
        have behind := toNat_behind more visited
        have fewer : size.toNat - (read + visit.length).toNat < size.toNat - read.toNat := by
          rw [behind, v.length_of_visit visited]
          exact Bare.turn_lt v visit.link more (by omega)
        rw [Bare.readOn_of_visit more (Volume.add_rest more) visited, readOn_of_visit more visited]
        simp only [restate_bind, restate_log, restate_copy, map_bind]
        refine bind_congr fun _ => bind_congr fun _ => bind_congr fun _ => ?_
        rw [← behind]
        cases visit.link with
        | next next => exact ih _ fewer next.toUInt32 (read + visit.length) rfl
        | last => rfl
        | bad => rfl
    · rw [readOn, Bare.readOn, dif_neg, dif_neg (Nat.not_lt.mpr all)]
      · rfl
      · rwa [UInt64.lt_iff_toNat_lt, UInt32.toNat_toUInt64, Nat.not_lt]

/-- A read that goes through has as many bytes as were asked for. -/
theorem eq_size_of_readOn {first n : Nat} {w w' : Workspace} (small : first < 65536)
    (fits : size.toNat ≤ w.destination.size) (went : Bare.readOn v size first 0 w = .ok n w') :
    n = size.toNat := by
  have asked : 0 + size.toUInt64.toNat = size.toNat := by rw [Nat.zero_add, UInt32.toNat_toUInt64]
  have ended : Bare.readOn v size first 0 (v.deliver ⟨#[], .complete⟩ w) = _ :=
    Bare.readOn_eq asked rfl fits
  rw [Bare.deliver_empty, went, ← Volume.walk] at ended
  cases failed : (v.walk first size).failure? with
  | some reason =>
    rw [failed] at ended
    cases ended
  | none =>
    rw [failed] at ended
    cases ended
    obtain ⟨visits, arrived⟩ := Volume.arrives_of_failure?_eq_none small failed
    exact arrived.size_gather

/-- A checked read is the read, and meets no overrun. -/
theorem read_eq (v : Volume) (memory : Memory) {room : Nat} (first size : UInt32) (w : Workspace)
    (inside : room ≤ w.destination.size) :
    read v room first size w = (v.read memory room first size).restate .abort w := by
  have isRead := (Bare.read_eq v first size w inside).trans
    (Volume.read_eq_of_memory .strict memory first size inside)
  rw [← restate_congr isRead]
  unfold read Bare.read
  cases isCluster : Cluster.ofIndex first.toNat with
  | error reason => rfl
  | ok cluster =>
    rcases Nat.lt_or_ge room size.toNat with noRoom | fits
    · simp only [if_pos noRoom]
      rfl
    · simp only [if_neg (Nat.not_lt.mpr fits)]
      show (readOn v size first 0 >>= fun whole => do
          let ⟨read, _⟩ ← ofChecked (narrow whole)
          return read) w =
        (Bare.readOn v size first.toNat 0 >>= fun whole => return UInt32.ofNat whole).restate .abort w
      have counted : (UInt64.toNat <$> readOn v size first 0) w =
          (Bare.readOn v size first.toNat 0).restate .abort w :=
        congrFun (readOn_eq v size first 0) w
      cases went : readOn v size first 0 w with
      | error stop w' =>
        rw [map_error went] at counted
        rw [restate_bind]
        exact (bind_error went).trans (bind_error counted.symm).symm
      | ok n w' =>
        rw [map_ok went] at counted
        have all : n.toNat = size.toNat := eq_size_of_readOn (Cluster.lt_of_ofIndex isCluster)
          (Nat.le_trans fits inside) (eq_ok_of_restate counted.symm)
        have same : UInt32.ofNat n.toNat = size := by rw [all, UInt32.ofNat_toNat]
        rw [restate_bind, bind_ok went, bind_ok counted.symm, narrow_eq_ok all.symm,
          ofChecked_ok_bind, same]
        rfl

/-- No word of a volume wraps, whatever its boot parameters are: the layout, the start of a
partition, and the offsets of table words and clusters are their checked counterparts and as far out
as the numbers say. All that a volume looks at ends below 2⁴¹ and is reported as outside exactly if
it ends behind the image. And the root directory and every read, of any size and from any cluster,
are what they are with checked numbers. -/
theorem arithmetic_is_exact (memory : Memory) :
    (∀ p : BootParameters, layout p = .ok p.layout ∧ LaidOut p p.layout) ∧
    (∀ disk lookup, onDisk disk lookup = (Partition.ofDisk disk lookup).restate .abort) ∧
    ∀ v : Volume,
      (∀ c, linkOffset v c = .ok (v.linkOffset c) ∧
        (v.linkOffset c).toNat = v.layout.tableOffset.toNat + 2 * c.index.toNat) ∧
      (∀ c, clusterOffset v c = .ok (v.clusterOffset c) ∧
        (v.clusterOffset c).toNat =
          v.layout.dataOffset.toNat + (c.index.toNat - 2) * v.layout.clusterSize.toNat) ∧
      ReportsOutside v ∧
      directory v = (Loader.ofExcept v.directory).restate .abort ∧
      ∀ first size w, read v w.destination.size first size w =
        (v.read memory w.destination.size first size).restate .abort w := by
  refine ⟨fun p => ⟨layout_eq p, laidOut_layout p⟩, onDisk_eq, fun v => ⟨fun c => ?_, fun c => ?_,
    reportsOutside v, directory_eq v, fun first size w => ?_⟩⟩
  · exact ⟨linkOffset_eq v c, v.toNat_linkOffset c⟩
  · exact ⟨clusterOffset_eq v c, v.toNat_clusterOffset c⟩
  · exact read_eq v memory first size w (Nat.le_refl _)

/-- A volume without a boot area whose other fields are as large as they can be. The only table
words in its image end a chain. -/
def widest : Volume where
  image := Array.replicate 8 0xFF
  parameters := ⟨0xFFFF, 0xFF, 0, 0xFF, 0xFFFF, 0xFFFF, 0xFF, 0xFFFF⟩
  clusterSize_ne_zero := by decide

/-- With a boot area too, the layout is as wide as a layout can be. In the volume without, the
largest file of all would end where the fields say, below 2⁴¹, and is reported as outside. A read of
the sample volume, with checked numbers, takes two turns. -/
theorem arithmetic_is_exact_widest :
    (layout { widest.parameters with reservedSectors := 0xFFFF }).map (·.dataOffset) =
      .ok (256 * 65535 * 65535 + 65535 * 32) ∧
    (∃ visit, widest.visit 2 0xFFFFFFFF = .ok visit ∧ visit.link = .last ∧
      visit.offset.toNat + visit.length.toNat = 255 * 65535 * 65535 + 65535 * 32 + 0xFFFFFFFF ∧
      widest.checkSupply visit = .error (.outOfBounds visit.offset.toNat visit.length.toNat)) ∧
    read .sample 6 2 5 (.start (Array.replicate 6 0)) =
      .ok 5 ⟨#[21, 22, 41, 42, 51, 0],
        #[.clusterVisited ⟨2, by decide⟩ 70 (.next 4), .clusterVisited ⟨4, by decide⟩ 74 .last],
        0, #[2, 3]⟩ := by
  obtain ⟨layouts, -, volumes⟩ := arithmetic_is_exact .strict
  obtain ⟨-, -, outside, -⟩ := volumes widest
  obtain ⟨-, -, -, -, reads⟩ := volumes .sample
  have visited : widest.visit 2 0xFFFFFFFF =
      .ok ⟨⟨2, by decide⟩, 1095185334495, .last, 0xFFFFFFFF⟩ := by decide
  refine ⟨?_, ⟨_, visited, rfl, by decide, ?_⟩, ?_⟩
  · rw [(layouts _).1]
    decide
  · exact (outside.supply 2 _ _ (by decide) visited (by decide)).mpr (by decide)
  · exact (reads 2 5 (.start (Array.replicate 6 0))).trans (by cbv)

end BootDisk.Checked
