import BootDisk.Proofs.Supply
import BootDisk.Volume.Read

/-!
# Reading along a chain

A read checks its first cluster and the room, and then does what its walk does: it logs the visits
and leaves the supplied bytes at the start of the destination (`deliver`), whether the walk arrives
or breaks off. `read_cases` gives each way a read can go as an equation; no read ends in a fault.
-/

namespace BootDisk

open Loader

namespace Volume

variable {v : Volume} {memory : Memory}

/-- The workspace once a walk is logged and its bytes are at the start of the destination. -/
def deliver (v : Volume) (walk : Walk) (w : Workspace) : Workspace where
  destination := w.destination.overwrite 0 (v.gather walk)
  log := w.log ++ walk.visits.map fun visit =>
    .clusterVisited visit.cluster visit.offset visit.link
  comparisons := w.comparisons
  copies := w.copies ++ walk.supplied.map fun visit => (v.supply visit).size

/-- Copying never fails within the limit, if each visit supplies what it settled. It leaves the
bytes of the visits one after the other. -/
theorem copySupplies_eq_ok (memory : Memory) {limit position : Nat} {visits : List Visit} {w : Workspace}
    (settled : ∀ visit ∈ visits, (v.supply visit).size = visit.length.toNat)
    (inside : position + (v.supplies visits).size ≤ limit) (room : limit ≤ w.destination.size) :
    v.copySupplies memory limit position visits w =
      .ok (position + (v.supplies visits).size) { w with
        destination := w.destination.overwrite position (v.supplies visits)
        copies := w.copies ++ (visits.map fun visit => (v.supply visit).size).toArray } := by
  induction visits generalizing position w with
  | nil => simp [copySupplies, supplies, pure, EStateM.pure]
  | cons visit rest ih =>
    obtain ⟨here, later⟩ := List.forall_mem_cons.mp settled
    rw [supplies, Array.size_append, here] at inside
    refine (bind_ok (copy_eq_ok here (by omega) room)).trans ?_
    rw [ih later (by omega) (by simpa using room)]
    rw [supplies, Array.size_append, ← here, Bytes.overwrite_overwrite, Nat.add_assoc]
    simp

theorem read_of_no_cluster {room : Nat} {first size : UInt32} {w : Workspace} {reason : Abort}
    (noCluster : Cluster.ofIndex first.toNat = .error reason) :
    v.read memory room first size w = .error (.failure reason) w := by
  rw [read, noCluster]
  rfl

theorem read_of_no_room {room : Nat} {first size : UInt32} {w : Workspace} {cluster : Cluster}
    (isCluster : Cluster.ofIndex first.toNat = .ok cluster) (noRoom : room < size.toNat) :
    v.read memory room first size w =
      .error (.failure (.destinationTooSmall size.toNat room)) w := by
  rw [read, isCluster]
  simp only [if_pos noRoom]
  rfl

/-- A walk never supplies more than was asked for. -/
theorem size_gather_le (v : Volume) {first : Nat} (small : first < 65536) (size : UInt32) :
    (v.gather (v.walk first size)).size ≤ size.toNat := by
  rcases v.walk_cases small size with ⟨k, reason, broken⟩ | ⟨n, arrived⟩
  · rw [broken.size_gather]
    exact Nat.le_of_lt broken.fails.wanted
  · exact Nat.le_of_eq arrived.size_gather

/-- With room for all its bytes, a read delivers its walk and ends as the walk does. -/
theorem read_of_walk {room : Nat} {first size : UInt32} {w : Workspace} {cluster : Cluster}
    (isCluster : Cluster.ofIndex first.toNat = .ok cluster) (fits : size.toNat ≤ room)
    (inside : room ≤ w.destination.size) :
    v.read memory room first size w =
      match (v.walk first.toNat size).failure? with
      | some reason => .error (.failure reason) (v.deliver (v.walk first.toNat size) w)
      | none => .ok size (v.deliver (v.walk first.toNat size) w) := by
  have small := Cluster.lt_of_ofIndex isCluster
  have supplied := v.size_gather_le small size
  rw [gather_eq] at supplied
  have copied := copySupplies_eq_ok memory (w := { w with
      log := w.log ++ (v.walk first.toNat size).visits.map fun visit =>
        .clusterVisited visit.cluster visit.offset visit.link })
    (fun visit member => size_supply_of_mem small (Array.mem_toList_iff.mp member))
    (by rw [Nat.zero_add]; exact supplied) (Nat.le_trans fits inside)
  rw [read, isCluster]
  simp only [if_neg (Nat.not_lt.mpr fits)]
  refine (bind_ok (ofExcept_ok cluster w)).trans ?_
  refine (bind_ok (logAll_eq _ w)).trans ?_
  refine (bind_ok copied).trans ?_
  have delivered : v.deliver (v.walk first.toNat size) w = { w with
      destination := w.destination.overwrite 0 (v.supplies (v.walk first.toNat size).supplied.toList)
      log := w.log ++ (v.walk first.toNat size).visits.map fun visit =>
        .clusterVisited visit.cluster visit.offset visit.link
      copies := w.copies ++ ((v.walk first.toNat size).supplied.toList.map
        fun visit => (v.supply visit).size).toArray } := by
    rw [deliver, gather_eq, ← Array.toList_map, Array.toArray_toList]
  rw [← delivered]
  cases ended : (v.walk first.toNat size).failure? with
  | some reason => rfl
  | none =>
    obtain ⟨n, arrived⟩ := arrives_of_failure?_eq_none small ended
    have all := arrived.size_gather
    rw [gather_eq] at all
    rw [Nat.zero_add, all]
    exact congrArg (EStateM.Result.ok · _) UInt32.ofNat_toNat

/-- The ways a read can go: its first cluster does not exist, the room is too small, or its walk is
delivered. -/
theorem read_cases (v : Volume) (memory : Memory) (first size : UInt32) {room : Nat} {w : Workspace}
    (inside : room ≤ w.destination.size) :
    (∃ reason, Cluster.ofIndex first.toNat = .error reason ∧
      v.read memory room first size w = .error (.failure reason) w) ∨
    (∃ cluster, Cluster.ofIndex first.toNat = .ok cluster ∧
      ((room < size.toNat ∧ v.read memory room first size w =
          .error (.failure (.destinationTooSmall size.toNat room)) w) ∨
        (size.toNat ≤ room ∧ v.read memory room first size w =
          match (v.walk first.toNat size).failure? with
          | some reason => .error (.failure reason) (v.deliver (v.walk first.toNat size) w)
          | none => .ok size (v.deliver (v.walk first.toNat size) w)))) := by
  cases isCluster : Cluster.ofIndex first.toNat with
  | error reason => exact .inl ⟨reason, rfl, read_of_no_cluster isCluster⟩
  | ok cluster =>
    refine .inr ⟨cluster, rfl, ?_⟩
    rcases Nat.lt_or_ge room size.toNat with noRoom | fits
    · exact .inl ⟨noRoom, read_of_no_room isCluster noRoom⟩
    · exact .inr ⟨fits, read_of_walk isCluster fits inside⟩

/-- A read that succeeds has read all that was asked for: its walk did not fail. -/
theorem eq_of_read_eq_ok {room : Nat} {first size n : UInt32} {w w' : Workspace}
    (inside : room ≤ w.destination.size) (h : v.read memory room first size w = .ok n w') :
    first.toNat < 65536 ∧ size.toNat ≤ room ∧ (v.walk first.toNat size).failure? = none ∧
      n = size ∧ w' = v.deliver (v.walk first.toNat size) w := by
  rcases v.read_cases memory first size inside with
    ⟨reason, -, ended⟩ | ⟨cluster, isCluster, ⟨-, ended⟩ | ⟨fits, ended⟩⟩
  · rw [h] at ended
    cases ended
  · rw [h] at ended
    cases ended
  · rw [h] at ended
    have small := Cluster.lt_of_ofIndex isCluster
    cases failed : (v.walk first.toNat size).failure? with
    | some reason =>
      rw [failed] at ended
      cases ended
    | none =>
      rw [failed] at ended
      cases ended
      exact ⟨small, fits, rfl, rfl, rfl⟩

end Volume

end BootDisk
