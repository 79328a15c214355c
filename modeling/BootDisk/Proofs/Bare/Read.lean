import BootDisk.Proofs.Bare.Directory
import BootDisk.Proofs.Read

/-!
# Reading a chain with bare accesses

A bare read goes along the chain turn by turn: it looks the cluster up, logs the visit, settles how
many bytes the cluster is to supply, and copies them at once, before it looks at the next cluster.
So it counts the bytes that are read and takes that count from the size in every turn. Whatever the
table and the clusters hold, the count stays below the size while there are turns, the stretch that
is copied to stays within the size, and it is as long as the one that is copied.
-/

namespace BootDisk.Bare

open Loader

variable {v : Volume} {w : Workspace}

/-- The cluster with a given number, the offset of its bytes and its link. -/
def seek (v : Volume) (index : Nat) : Loader Abort (Cluster × UInt64 × Link) := do
  let cluster ← ofExcept (Cluster.ofIndex index)
  let ⟨number, _⟩ ← ofAccess (difference cluster.index.toNat Cluster.firstIndex)
  let offset := v.layout.dataOffset + UInt64.ofNat number * v.layout.clusterSize
  let raw ← ofExcept (view v (v.linkOffset cluster) 2)
  let word ← ofAccess (word16 raw)
  return (cluster, offset, Link.ofWord word)

/-- Every turn leaves fewer bytes to be read. -/
theorem turn_lt (v : Volume) (link : Link) {size : UInt32} {done rest : Nat}
    (more : done < size.toNat) (left : rest + done = size.toNat) :
    size.toNat - (done + (v.supplyLength link (UInt64.ofNat rest)).toNat) < size.toNat - done := by
  have small := size.toNat_lt
  have some : UInt64.ofNat rest ≠ 0 := by
    intro none
    have zero := congrArg UInt64.toNat none
    rw [UInt64.toNat_ofNat_of_lt' (by rw [UInt64.size]; omega), UInt64.toNat_zero] at zero
    omega
  have supplied := v.supplyLength_pos link some
  omega

/-- Goes on reading from the cluster with a given number, once `done` of `size` bytes are read.
Gives the number of bytes read in all. -/
def readOn (v : Volume) (size : UInt32) (index done : Nat) : Loader Abort Nat :=
  if more : done < size.toNat then do
    let (cluster, offset, link) ← seek v index
    log (.clusterVisited cluster offset link)
    if link = .bad then
      fail (.badCluster cluster.index.toNat)
    else
      let ⟨rest, left⟩ ← ofAccess (difference size.toNat done)
      let length := v.supplyLength link (UInt64.ofNat rest)
      let source ← ofExcept (view v offset length)
      copy .strict size.toNat done length.toNat source
      have := turn_lt v link more left
      match link with
      | .next next => readOn v size next.toNat (done + length.toNat)
      | _ => return done + length.toNat
  else
    return done
termination_by size.toNat - done

/-- Reads `size` bytes of the chain that starts at `first` into the first bytes of a destination of
which `room` bytes may be written. -/
def read (v : Volume) (room : Nat) (first size : UInt32) : Loader Abort UInt32 := do
  let _ ← ofExcept (Cluster.ofIndex first.toNat)
  if room < size.toNat then
    fail (.destinationTooSmall size.toNat room)
  let position ← readOn v size first.toNat 0
  return UInt32.ofNat position

/-! Single turns. -/

/-- The number of a cluster in the data region is its own number less two, as words too. -/
theorem offset_eq (v : Volume) (c : Cluster) :
    v.layout.dataOffset + UInt64.ofNat (c.index.toNat - Cluster.firstIndex) * v.layout.clusterSize =
      v.clusterOffset c := by
  have low := c.two_le_toNat_index
  have number : UInt64.ofNat (c.index.toNat - Cluster.firstIndex) = c.index.toUInt64 - 2 := by
    apply UInt64.toNat_inj.mp
    have high := c.index.toNat_lt
    rw [UInt64.toNat_sub_of_le, UInt64.toNat_ofNat_of_lt' (by rw [UInt64.size]; omega)]
    · simp [Cluster.firstIndex]
    · rw [UInt64.le_iff_toNat_le]
      simpa using low
  rw [number, Volume.clusterOffset]

/-- A cluster is looked up like its table word. -/
theorem seek_eq (v : Volume) (index : Nat) :
    seek v index = ofExcept (do
      let cluster ← Cluster.ofIndex index
      let word ← v.tableWord cluster
      return (cluster, v.clusterOffset cluster, Link.ofWord word)) := by
  unfold seek
  cases isCluster : Cluster.ofIndex index with
  | error reason => rfl
  | ok cluster =>
    have low : Cluster.firstIndex ≤ cluster.index.toNat := cluster.two_le_toNat_index
    rw [ofExcept_ok_bind, difference_eq_ok low, ofAccess_ok_bind]
    simp only [offset_eq]
    unfold Volume.tableWord
    cases found : v.slice? (v.linkOffset cluster) 2 with
    | none =>
      rw [view_of_no_slice? found]
      simp only [bind, Except.bind, found]
      rfl
    | some raw =>
      rw [view_of_slice? found, ofExcept_ok_bind, word16_toArray raw (Nat.le_refl 2), ofAccess_ok_bind]
      simp only [bind, Except.bind, found]
      rfl

theorem seek_of_visit {index : Nat} {wanted : UInt64} {visit : Visit}
    (visited : v.visit index wanted = .ok visit) :
    seek v index = ofExcept (.ok (visit.cluster, visit.offset, visit.link)) := by
  rw [seek_eq]
  unfold Volume.visit at visited
  cases isCluster : Cluster.ofIndex index with
  | error reason =>
    rw [isCluster] at visited
    cases visited
  | ok cluster =>
    rw [isCluster] at visited
    cases hasWord : v.tableWord cluster with
    | error reason =>
      simp only [bind, Except.bind, hasWord] at visited
      cases visited
    | ok word =>
      simp only [bind, Except.bind, hasWord] at visited ⊢
      cases visited
      rfl

theorem seek_of_lost {index : Nat} {wanted : UInt64} {reason : Abort}
    (lost : v.visit index wanted = .error reason) : seek v index = ofExcept (.error reason) := by
  rw [seek_eq]
  unfold Volume.visit at lost
  cases isCluster : Cluster.ofIndex index with
  | error reason' =>
    rw [isCluster] at lost
    cases lost
    rfl
  | ok cluster =>
    rw [isCluster] at lost
    cases hasWord : v.tableWord cluster with
    | error reason' =>
      simp only [bind, Except.bind, hasWord] at lost ⊢
      cases lost
      rfl
    | ok word =>
      simp only [bind, Except.bind, hasWord] at lost
      cases lost

/-- A turn that makes a visit copies what the visit supplies, if it is to supply it. -/
theorem readOn_of_visit {size : UInt32} {index done : Nat} {wanted : UInt64} {visit : Visit}
    (more : done < size.toNat) (asked : done + wanted.toNat = size.toNat)
    (visited : v.visit index wanted = .ok visit) :
    readOn v size index done = (do
      log (.clusterVisited visit.cluster visit.offset visit.link)
      ofExcept (v.checkSupply visit)
      copy .strict size.toNat done visit.length.toNat (v.supply visit)
      match visit.link with
      | .next next => readOn v size next.toNat (done + visit.length.toNat)
      | _ => return done + visit.length.toNat) := by
  have rest : UInt64.ofNat (size.toNat - done) = wanted := by
    have word : size.toNat - done = wanted.toNat := by omega
    rw [word, UInt64.ofNat_toNat]
  have length := v.length_of_visit visited
  rw [readOn, dif_pos more, seek_of_visit visited, ofExcept_ok_bind]
  simp only [difference_eq_ok (Nat.le_of_lt more), ofAccess_ok_bind, rest, ← length]
  unfold Volume.checkSupply
  by_cases bad : visit.link = .bad
  · simp only [if_pos bad]
    rfl
  · simp only [if_neg bad]
    by_cases inside : v.contains visit.offset visit.length = true
    · rw [view_of_contains inside, if_pos inside]
      rfl
    · rw [view_of_not_contains inside, if_neg inside]
      rfl

theorem readOn_of_lost {size : UInt32} {index done : Nat} {wanted : UInt64} {reason : Abort}
    (more : done < size.toNat) (lost : v.visit index wanted = .error reason) :
    readOn v size index done = fail reason := by
  rw [readOn, dif_pos more, seek_of_lost lost]
  rfl

/-- A visit that is to supply its bytes supplies all of them. -/
theorem size_supply_of_checkSupply {visit : Visit} (passes : v.checkSupply visit = .ok ()) :
    (v.supply visit).size = visit.length.toNat := by
  have inside : v.contains visit.offset visit.length = true := by
    unfold Volume.checkSupply at passes
    split at passes
    · cases passes
    · split at passes
      · assumption
      · cases passes
  have fits := (v.contains_iff.mp inside).2
  rw [Volume.supply, Array.size_extract]
  omega

theorem gather_push (v : Volume) (supplied : Array Visit) (visit : Visit) (ending : Ending) :
    v.gather ⟨supplied.push visit, ending⟩ =
      v.gather ⟨supplied, ending⟩ ++ v.supply visit := by
  simp [Volume.gather]

/-- What is delivered once one more visit is logged and copied. -/
theorem deliver_push (v : Volume) (supplied : Array Visit) (visit : Visit) (w : Workspace) :
    v.deliver ⟨supplied.push visit, .complete⟩ w =
      { v.deliver ⟨supplied, .complete⟩ w with
        destination := (v.deliver ⟨supplied, .complete⟩ w).destination.overwrite
          (v.gather ⟨supplied, .complete⟩).size (v.supply visit)
        log := (v.deliver ⟨supplied, .complete⟩ w).log.push
          (.clusterVisited visit.cluster visit.offset visit.link)
        copies := (v.deliver ⟨supplied, .complete⟩ w).copies.push (v.supply visit).size } := by
  have written := Bytes.overwrite_overwrite w.destination 0 (v.gather ⟨supplied, .complete⟩)
    (v.supply visit)
  rw [Nat.zero_add] at written
  simp only [Volume.deliver, gather_push, written, Walk.visits, Array.map_push, Array.append_push]

theorem lt_of_wanted {size done : Nat} {wanted : UInt64} (some : wanted ≠ 0)
    (asked : done + wanted.toNat = size) : done < size := by
  have : wanted.toNat ≠ 0 := fun none => some (UInt64.toNat_inj.mp none)
  omega

/-- One turn of a bare read whose visit supplies its bytes. -/
theorem turn_eq {visit : Visit} {supplied : Array Visit} {size : UInt32} {done : Nat}
    {next : Loader Abort Nat} (passes : v.checkSupply visit = .ok ())
    (delivered : (v.gather ⟨supplied, .complete⟩).size = done)
    (inside : done + visit.length.toNat ≤ size.toNat) (fits : size.toNat ≤ w.destination.size) :
    (do
      log (.clusterVisited visit.cluster visit.offset visit.link)
      ofExcept (v.checkSupply visit)
      copy .strict size.toNat done visit.length.toNat (v.supply visit)
      next : Loader Abort Nat) (v.deliver ⟨supplied, .complete⟩ w) =
      next (v.deliver ⟨supplied.push visit, .complete⟩ w) := by
  refine (bind_ok (log_eq _ _)).trans ?_
  rw [passes, ofExcept_ok_bind]
  refine (bind_ok (copy_eq_ok (size_supply_of_checkSupply passes) inside ?_)).trans ?_
  · exact Nat.le_trans fits (Nat.le_of_eq (Bytes.size_overwrite ..).symm)
  · rw [deliver_push, delivered]

/-- **A bare read goes the way of the walk.** It ends like the walk from where it stands, and leaves
what that walk delivers. The induction is on the turns of the walk; what is delivered so far is as
long as the count of the read. -/
theorem readOn_eq {size : UInt32} {index done : Nat} {wanted : UInt64} {supplied : Array Visit}
    (asked : done + wanted.toNat = size.toNat)
    (delivered : (v.gather ⟨supplied, .complete⟩).size = done)
    (fits : size.toNat ≤ w.destination.size) :
    readOn v size index done (v.deliver ⟨supplied, .complete⟩ w) =
      match (v.walkFrom index wanted supplied).failure? with
      | some reason => .error (.failure reason) (v.deliver (v.walkFrom index wanted supplied) w)
      | none => .ok (v.gather (v.walkFrom index wanted supplied)).size
          (v.deliver (v.walkFrom index wanted supplied) w) := by
  fun_induction v.walkFrom index wanted supplied generalizing done with
  | case1 index supplied =>
    have all : ¬ done < size.toNat := by
      rw [UInt64.toNat_zero] at asked
      omega
    rw [readOn, dif_neg all, ← delivered]
    rfl
  | case2 index wanted supplied some reason lost =>
    rw [readOn_of_lost (lt_of_wanted some asked) lost]
    rfl
  | case3 index wanted supplied some visit visited reason failed =>
    rw [readOn_of_visit (lt_of_wanted some asked) asked visited, failed]
    refine (bind_ok (log_eq _ _)).trans ?_
    simp only [Volume.deliver, Walk.visits, Walk.failure?, Array.map_push, Array.append_push]
    rfl
  | case4 index wanted supplied some visit visited passes next link fewer ih =>
    have taken := v.toNat_wanted_sub visited
    have fewest := v.supplyLength_le visit.link wanted
    rw [← v.length_of_visit visited] at fewest
    rw [readOn_of_visit (lt_of_wanted some asked) asked visited,
      turn_eq passes delivered (by omega) fits, link]
    apply ih
    · omega
    · rw [gather_push, Array.size_append, delivered, size_supply_of_checkSupply passes]
  | case5 index wanted supplied some visit visited passes link =>
    have fewest := v.supplyLength_le visit.link wanted
    rw [← v.length_of_visit visited] at fewest
    rw [readOn_of_visit (lt_of_wanted some asked) asked visited,
      turn_eq passes delivered (by omega) fits]
    have all : done + visit.length.toNat = (v.gather ⟨supplied.push visit, .complete⟩).size := by
      rw [gather_push, Array.size_append, delivered, size_supply_of_checkSupply passes]
    simp only [Walk.failure?, ← all]
    cases ended : visit.link with
    | next next => exact absurd ended (link next)
    | last => rfl
    | bad => rfl

theorem deliver_empty (v : Volume) (w : Workspace) : v.deliver ⟨#[], .complete⟩ w = w := by
  simp [Volume.deliver, Volume.gather, Walk.visits]

/-- A bare read is the read. -/
theorem read_eq (v : Volume) {room : Nat} (first size : UInt32) (w : Workspace)
    (inside : room ≤ w.destination.size) :
    read v room first size w = v.read .strict room first size w := by
  unfold read
  cases isCluster : Cluster.ofIndex first.toNat with
  | error reason => exact (Volume.read_of_no_cluster isCluster).symm
  | ok cluster =>
    rw [ofExcept_ok_bind]
    rcases Nat.lt_or_ge room size.toNat with noRoom | fits
    · rw [Volume.read_of_no_room isCluster noRoom, if_pos noRoom]
      rfl
    · rw [Volume.read_of_walk isCluster fits inside, if_neg (Nat.not_lt.mpr fits)]
      have asked : 0 + size.toUInt64.toNat = size.toNat := by
        rw [Nat.zero_add, UInt32.toNat_toUInt64]
      have nothing : (v.gather ⟨#[], .complete⟩).size = 0 := rfl
      have ended : readOn v size first.toNat 0 (v.deliver ⟨#[], .complete⟩ w) = _ :=
        readOn_eq asked nothing (Nat.le_trans fits inside)
      rw [deliver_empty, ← Volume.walk] at ended
      show (readOn v size first.toNat 0 >>= fun position => return UInt32.ofNat position) w = _
      cases failed : (v.walk first.toNat size).failure? with
      | some reason =>
        rw [failed] at ended
        exact bind_error ended
      | none =>
        rw [failed] at ended
        obtain ⟨n, arrived⟩ := Volume.arrives_of_failure?_eq_none
          (Cluster.lt_of_ofIndex isCluster) failed
        refine (bind_ok ended).trans ?_
        rw [arrived.size_gather, UInt32.ofNat_toNat]
        rfl

end BootDisk.Bare
