import BootDisk.Proofs.Load
import Mathlib

/-!
# The outcome of a read

What a read leaves in the destination and why it fails, told by the chain alone. A read that
succeeds has all its bytes, each from the cluster its position belongs to or, past an early end of
the chain, from behind the cluster that ends it. A read that fails at a visit has left the whole
clusters in front of that visit.
-/

namespace BootDisk.Volume

open Loader

variable {v : Volume} {memory : Memory}

/-- The first visit of a read whose cluster ends the chain, if there is one. -/
def chainEnd? (v : Volume) (first size : Nat) : Option Nat :=
  (List.range ((size + v.clusterLength - 1) / v.clusterLength)).find? fun j =>
    0xFFF8 ≤ v.wordOf (v.chain first j)

/-- The visit that supplies the byte at a position: that of the cluster the position is in, but none
behind the end of the chain. -/
def supplier (v : Volume) (first size position : Nat) : Nat :=
  match v.chainEnd? first size with
  | some last => min (position / v.clusterLength) last
  | none => position / v.clusterLength

/-- Where in the image the byte at a position of the destination comes from. -/
def sourcePosition (v : Volume) (first size position : Nat) : Nat :=
  v.dataPosition (v.chain first (v.supplier first size position)) +
    (position - v.supplier first size position * v.clusterLength)

/-- The visits of a read that a position may belong to are those with bytes still wanted. -/
theorem lt_visits_iff (v : Volume) {size j : Nat} :
    j < (size + v.clusterLength - 1) / v.clusterLength ↔ j * v.clusterLength < size := by
  have pos := v.clusterLength_pos
  rw [Nat.lt_div_iff_mul_lt pos]
  omega

/-- The visit at which the chain ends is wanted, and no visit before it ends the chain. -/
theorem chainEnd?_eq_some {first size e : Nat} (h : v.chainEnd? first size = some e) :
    e * v.clusterLength < size ∧ 0xFFF8 ≤ v.wordOf (v.chain first e) ∧
      ∀ j < e, v.wordOf (v.chain first j) < 0xFFF8 := by
  obtain ⟨ended, wanted, before⟩ := List.find?_range_eq_some.mp h
  refine ⟨v.lt_visits_iff.mp (List.mem_range.mp wanted), of_decide_eq_true ended, fun j earlier => ?_⟩
  have := before j earlier
  simpa using this

theorem chainEnd?_eq_none {first size j : Nat} (h : v.chainEnd? first size = none)
    (wanted : j * v.clusterLength < size) : v.wordOf (v.chain first j) < 0xFFF8 := by
  have := List.find?_range_eq_none.mp h j (v.lt_visits_iff.mpr wanted)
  simpa using this

/-- A complete read supplies each byte from its own cluster, or from the last one. -/
theorem Completes.supplier_eq {first size i p : Nat} (h : v.Completes first size (i + 1))
    (wanted : p < size) : v.supplier first size p = min (p / v.clusterLength) i := by
  have low : p / v.clusterLength * v.clusterLength ≤ p := Nat.div_mul_le_self p _
  have last := h.wanted i (Nat.lt_succ_self i)
  have own : v.wordOf (v.chain first i) < 0xFFF8 → p / v.clusterLength < i + 1 := fun linked =>
    (Nat.div_lt_iff_lt_mul v.clusterLength_pos).mpr (Nat.lt_of_lt_of_le wanted (h.covered linked))
  unfold supplier
  cases found : v.chainEnd? first size with
  | none =>
    exact (Nat.min_eq_left (Nat.lt_succ_iff.mp (own (chainEnd?_eq_none found last)))).symm
  | some e =>
    obtain ⟨read, ended, before⟩ := chainEnd?_eq_some found
    rcases Nat.lt_trichotomy e i with early | rfl | late
    · have := h.linked e (by omega)
      omega
    · rfl
    · have inner := Nat.lt_succ_iff.mp (own (before i late))
      exact (Nat.min_eq_left (by omega)).trans (Nat.min_eq_left inner).symm

/-- The byte at a position of a walk that arrives is the one at its source in the image. -/
theorem Arrives.getElem?_gather_eq {first size n p : Nat} {walk : Walk}
    (h : v.Arrives first size n walk) (wanted : p < size) :
    (v.gather walk)[p]? = v.image[v.sourcePosition first size p]? := by
  cases n with
  | zero =>
    rcases h.completes.done with covered | ⟨i, same, -⟩ <;> omega
  | succ i =>
    have supplier := h.completes.supplier_eq wanted
    have low : p / v.clusterLength * v.clusterLength ≤ p := Nat.div_mul_le_self p _
    have high : p < (p / v.clusterLength + 1) * v.clusterLength := by
      rw [Nat.add_one_mul]
      exact Nat.lt_div_mul_add v.clusterLength_pos
    rw [sourcePosition, supplier]
    rcases Nat.le_total (p / v.clusterLength) i with own | past
    · rw [Nat.min_eq_left own]
      exact h.getElem?_gather (by omega) low (.inl high) wanted
    · rw [Nat.min_eq_right past]
      exact h.getElem?_gather (by omega)
        (Nat.le_trans (Nat.mul_le_mul_right _ past) low) (.inr rfl) wanted

/-- A load whose room is that of the destination never reads a file in part. -/
theorem loadInto_ne_truncated {room : DirectoryEntry → Loader LoadError Nat} {path : String}
    {w w' : Workspace} {expected read : Nat}
    (hasRoom : ∀ entry w, (∃ size, room entry w = .ok size w ∧ size ≤ w.destination.size) ∨
      ∃ cause, room entry w = .error (.fault cause) w) :
    v.loadInto memory room path w ≠ .error (.failure (.truncated expected read)) w' := by
  intro truncated
  cases isName : ShortName.ofPath? path with
  | none =>
    rw [loadInto_of_no_name isName] at truncated
    cases truncated
  | some name =>
    cases hasEntries : v.directory with
    | error reason =>
      rw [loadInto_of_no_directory isName hasEntries] at truncated
      cases truncated
    | ok entries =>
      cases found : DirectoryEntry.named? name entries with
      | none =>
        rw [loadInto_of_absent isName hasEntries found] at truncated
        cases truncated
      | some entry =>
        rcases hasRoom entry (w.scanned name entries) with ⟨size, fits, inside⟩ | ⟨cause, broken⟩
        · rw [loadInto_of_entry isName hasEntries found fits inside] at truncated
          cases ended : v.read memory size entry.cluster.toUInt32 entry.size (w.scanned name entries)
          with
          | ok n w₁ =>
            rw [restate_ok ended] at truncated
            cases truncated
          | error stop w₁ =>
            rw [restate_error ended] at truncated
            cases stop <;> cases truncated
        · rw [loadInto_of_no_room isName hasEntries found broken] at truncated
          cases truncated

/-- A volume with clusters of two bytes. Its chains are 2 → 4, and 3 → 5 with 5 marked bad. -/
def sample : Volume where
  image :=
    #[0, 0, 0, 0, 0, 0, 0, 0, 0, 0, 0, 2, 0, 1, 13, 0, 1, 1, 0, 0, 0, 0, 6, 0, 0x55, 0xAA,
      0, 0, 0, 0, 4, 0, 5, 0, 0xF8, 0xFF, 0xF7, 0xFF] ++ Array.replicate 32 0 ++
    #[21, 22, 31, 32, 41, 42, 51, 52]
  parameters := ⟨2, 1, 13, 1, 1, 0, 0, 6⟩
  clusterSize_ne_zero := by decide

/-- **What a read supplies.** A read that succeeds has read as many bytes as were asked for, so no
load ever ends with a truncated file. The byte at a position comes from the cluster of the chain
that the position is in; past the end of a chain that is too short, it comes from behind the
cluster that ends the chain. Behind the bytes that were asked for the destination is as before. -/
theorem read_supplies_chain (v : Volume) (memory : Memory) :
    (∀ (first size n : UInt32) (w w' : Workspace),
      v.read memory w.destination.size first size w = .ok n w' →
        n = size ∧ w'.destination.size = w.destination.size ∧
        (∀ p < size.toNat, ∃ byte, w'.destination[p]? = some byte ∧
          v.image[v.sourcePosition first.toNat size.toNat p]? = some byte) ∧
        ∀ p, size.toNat ≤ p → w'.destination[p]? = w.destination[p]?) ∧
    ∀ (path : String) (w w' : Workspace) (expected read : Nat),
      v.load memory path w ≠ .error (.failure (.truncated expected read)) w' ∧
      v.loadExactly memory path w ≠ .error (.failure (.truncated expected read)) w' := by
  constructor
  · intro first size n w w' succeeded
    obtain ⟨small, fits, sound, rfl, rfl⟩ := eq_of_read_eq_ok (Nat.le_refl _) succeeded
    obtain ⟨visits, arrived⟩ := arrives_of_failure?_eq_none small sound
    have all := arrived.size_gather
    refine ⟨rfl, Bytes.size_overwrite .., ?_, ?_⟩
    · intro p wanted
      have supplied := arrived.getElem?_gather_eq wanted
      have present : p < (v.gather (v.walk first.toNat n)).size := by omega
      refine ⟨(v.gather (v.walk first.toNat n))[p], ?_, ?_⟩
      · rw [deliver, Bytes.getElem?_overwrite, if_pos (by omega), Nat.sub_zero,
          Array.getElem?_eq_getElem present]
      · rw [← supplied, Array.getElem?_eq_getElem present]
    · intro p behind
      rw [deliver, Bytes.getElem?_overwrite, if_neg (by omega)]
  · intro path w w' expected read
    constructor
    · apply loadInto_ne_truncated
      intro entry w
      exact .inl ⟨_, wholeRoom_eq entry w, Nat.le_refl _⟩
    · apply loadInto_ne_truncated
      intro entry w
      rcases Nat.lt_or_ge w.destination.size entry.size.toNat with noRoom | fits
      · exact .inr ⟨_, exactRoom_of_lt noRoom⟩
      · exact .inl ⟨_, exactRoom_of_le fits, fits⟩

/-- Five bytes along a chain of two clusters, the last of them past the end of the chain. -/
theorem read_supplies_chain_past_end :
    sample.read .strict 6 2 5 (.start (Array.replicate 6 0)) =
      .ok 5 ⟨#[21, 22, 41, 42, 51, 0], #[.clusterVisited ⟨2, by decide⟩ 70 (.next 4),
        .clusterVisited ⟨4, by decide⟩ 74 .last], 0, #[2, 3]⟩ ∧
    ∀ p < 5, ∃ byte, (#[21, 22, 41, 42, 51, 0] : Bytes)[p]? = some byte ∧
      sample.image[sample.sourcePosition 2 5 p]? = some byte :=
  have succeeded : sample.read .strict 6 2 5 (.start (Array.replicate 6 0)) =
      .ok 5 ⟨#[21, 22, 41, 42, 51, 0], #[.clusterVisited ⟨2, by decide⟩ 70 (.next 4),
        .clusterVisited ⟨4, by decide⟩ 74 .last], 0, #[2, 3]⟩ := by cbv
  ⟨succeeded, ((read_supplies_chain sample .strict).1 2 5 5 (.start (Array.replicate 6 0)) _
    succeeded).2.2.1⟩

/-- The destination of a read that fails at visit `k`: the whole clusters in front of that visit,
and the bytes that were there before behind them. -/
structure LeftAt (v : Volume) (first k : Nat) (before after : Bytes) : Prop where
  size_eq : after.size = before.size
  clusters : ∀ p < k * v.clusterLength, p < after.size ∧
    after[p]? =
      v.image[v.dataPosition (v.chain first (p / v.clusterLength)) + p % v.clusterLength]?
  rest : ∀ p, k * v.clusterLength ≤ p → after[p]? = before[p]?

theorem LeftAt.unique {first k : Nat} {before after after' : Bytes}
    (h : v.LeftAt first k before after) (h' : v.LeftAt first k before after') : after = after' := by
  apply Array.ext_getElem?
  intro p
  rcases Nat.lt_or_ge p (k * v.clusterLength) with inside | behind
  · rw [(h.clusters p inside).2, (h'.clusters p inside).2]
  · rw [h.rest p behind, h'.rest p behind]

/-- A walk that breaks off leaves its whole clusters. -/
theorem BreaksOff.leftAt {first size k : Nat} {reason : Abort} {walk : Walk} {w : Workspace}
    (h : v.BreaksOff first size k reason walk) (fits : size ≤ w.destination.size) :
    v.LeftAt first k w.destination (v.deliver walk w).destination := by
  have all := h.size_gather
  have wanted := h.fails.wanted
  refine ⟨Bytes.size_overwrite .., ?_, ?_⟩
  · intro p inside
    constructor
    · rw [deliver, Bytes.size_overwrite]
      omega
    · rw [deliver, Bytes.getElem?_overwrite, if_pos (by omega), Nat.sub_zero,
        h.getElem?_gather inside]
  · intro p behind
    rw [deliver, Bytes.getElem?_overwrite, if_neg (by omega)]

/-! The ways a read can go, by the conditions on its numbers and its chain. -/

section Ways

variable {first size : UInt32} {w : Workspace}

theorem read_of_invalid {room : Nat} (invalid : ¬ (2 ≤ first.toNat ∧ first.toNat ≤ 65535)) :
    v.read memory room first size w =
      .error (.failure (.invalidCluster first.toNat)) w := by
  cases isCluster : Cluster.ofIndex first.toNat with
  | ok cluster => exact absurd (Cluster.exists_ofIndex_iff.mp ⟨cluster, isCluster⟩) invalid
  | error reason =>
    obtain ⟨-, rfl⟩ := Cluster.ofIndex_eq_error_iff.mp isCluster
    exact read_of_no_cluster isCluster

theorem read_of_failsAt (memory : Memory) {k : Nat} {reason : Abort}
    (valid : 2 ≤ first.toNat ∧ first.toNat ≤ 65535) (fits : size.toNat ≤ w.destination.size)
    (fails : v.FailsAt first.toNat size.toNat k reason) :
    ∃ w', v.read memory w.destination.size first size w = .error (.failure reason) w' ∧
      v.LeftAt first.toNat k w.destination w'.destination := by
  obtain ⟨cluster, isCluster⟩ := Cluster.exists_ofIndex_iff.mpr valid
  have broken := fails.breaksOff (Nat.lt_succ_of_le valid.2)
  refine ⟨_, ?_, broken.leftAt fits⟩
  rw [read_of_walk isCluster fits (Nat.le_refl _), broken.failure?_eq]

theorem read_of_completes {n : Nat} (valid : 2 ≤ first.toNat ∧ first.toNat ≤ 65535)
    (fits : size.toNat ≤ w.destination.size) (completes : v.Completes first.toNat size.toNat n) :
    v.read memory w.destination.size first size w =
      .ok size (v.deliver (v.walk first.toNat size) w) := by
  obtain ⟨cluster, isCluster⟩ := Cluster.exists_ofIndex_iff.mpr valid
  obtain ⟨n, arrived⟩ := completes.arrives (Nat.lt_succ_of_le valid.2)
  rw [read_of_walk isCluster fits (Nat.le_refl _), arrived.failure?_eq]

/-- A chain fails a read or serves all of it. -/
theorem failsAt_or_completes (v : Volume) {first : Nat} (small : first < 65536) (size : UInt32) :
    (∃ k reason, v.FailsAt first size.toNat k reason) ∨ ∃ n, v.Completes first size.toNat n := by
  rcases v.walk_cases small size with ⟨k, reason, broken⟩ | ⟨n, arrived⟩
  · exact .inl ⟨k, reason, broken.fails⟩
  · exact .inr ⟨n, arrived.completes⟩

end Ways

/-- Why a read fails and what it leaves, the first reason that applies. -/
inductive ReadFailure (v : Volume) (first size : Nat) (before : Bytes) : Abort → Bytes → Prop where
  /-- The first cluster does not exist. -/
  | noCluster (invalid : ¬ (2 ≤ first ∧ first ≤ 65535)) :
    ReadFailure v first size before (.invalidCluster first) before
  /-- The destination is too small. -/
  | noRoom (valid : 2 ≤ first ∧ first ≤ 65535) (small : before.size < size) :
    ReadFailure v first size before (.destinationTooSmall size before.size) before
  /-- A visit is refused. -/
  | atVisit (valid : 2 ≤ first ∧ first ≤ 65535) (fits : size ≤ before.size) {k : Nat}
    {reason : Abort} {after : Bytes} (fails : v.FailsAt first size k reason)
    (left : v.LeftAt first k before after) : ReadFailure v first size before reason after

/-- Each reason makes a read fail. -/
theorem ReadFailure.read_eq {first size : UInt32} {w : Workspace} {reason : Abort} {after : Bytes}
    (h : v.ReadFailure first.toNat size.toNat w.destination reason after) :
    ∃ w', v.read memory w.destination.size first size w = .error (.failure reason) w' ∧
      w'.destination = after := by
  cases h with
  | noCluster invalid => exact ⟨w, read_of_invalid invalid, rfl⟩
  | noRoom valid small =>
    obtain ⟨cluster, isCluster⟩ := Cluster.exists_ofIndex_iff.mpr valid
    exact ⟨w, read_of_no_room isCluster small, rfl⟩
  | atVisit valid fits fails left =>
    obtain ⟨w', ended, left'⟩ := read_of_failsAt memory valid fits fails
    exact ⟨w', ended, left'.unique left⟩

/-- A read that does not succeed fails for one of the reasons. -/
theorem readFailure_of_error {first size : UInt32} {w w' : Workspace} {stop : Stop Abort}
    (h : v.read memory w.destination.size first size w = .error stop w') :
    ∃ reason, stop = .failure reason ∧
      v.ReadFailure first.toNat size.toNat w.destination reason w'.destination := by
  by_cases valid : 2 ≤ first.toNat ∧ first.toNat ≤ 65535
  · rcases Nat.lt_or_ge w.destination.size size.toNat with small | fits
    · obtain ⟨cluster, isCluster⟩ := Cluster.exists_ofIndex_iff.mpr valid
      rw [read_of_no_room isCluster small] at h
      cases h
      exact ⟨_, rfl, .noRoom valid small⟩
    · rcases v.failsAt_or_completes (Nat.lt_succ_of_le valid.2) size with
        ⟨k, reason, fails⟩ | ⟨n, completes⟩
      · obtain ⟨w₁, ended, left⟩ := read_of_failsAt memory valid fits fails
        rw [h] at ended
        cases ended
        exact ⟨reason, rfl, .atVisit valid fits fails left⟩
      · rw [read_of_completes valid fits completes] at h
        cases h
  · rw [read_of_invalid valid] at h
    cases h
    exact ⟨_, rfl, .noCluster valid⟩

/-- **Why a read fails, exactly.** A read fails, and never faults, for the first reason that
applies: its first cluster does not exist, the destination is too small, or a visit that it reaches
is refused. The first two leave the destination alone, and the third leaves the whole clusters in
front of that visit. A read whose wanted bytes are all served succeeds, whatever the links of
clusters say that it does not visit for them. -/
theorem read_fails_iff (v : Volume) (memory : Memory) (first size : UInt32) (w : Workspace) :
    (∀ (reason : Abort) (after : Bytes),
      (∃ w', v.read memory w.destination.size first size w = .error (.failure reason) w' ∧
        w'.destination = after) ↔
      v.ReadFailure first.toNat size.toNat w.destination reason after) ∧
    (∀ cause w', v.read memory w.destination.size first size w ≠ .error (.fault cause) w') ∧
    (∀ n, 2 ≤ first.toNat → first.toNat ≤ 65535 → size.toNat ≤ w.destination.size →
      v.Completes first.toNat size.toNat n →
        ∃ w', v.read memory w.destination.size first size w = .ok size w') := by
  refine ⟨?_, ?_, ?_⟩
  · intro reason after
    constructor
    · rintro ⟨w', failed, rfl⟩
      obtain ⟨reason', same, failure⟩ := readFailure_of_error failed
      cases same
      exact failure
    · intro failure
      exact failure.read_eq
  · intro cause w' faulted
    obtain ⟨reason, same, -⟩ := readFailure_of_error faulted
    cases same
  · intro n low high fits completes
    exact ⟨_, read_of_completes ⟨low, high⟩ fits completes⟩

/-- A chain that runs into a bad cluster leaves its first cluster, and one that ends early is read
past its end. -/
theorem read_fails_at_bad_cluster :
    sample.ReadFailure 3 4 (Array.replicate 6 0) (.badCluster 5) #[31, 32, 0, 0, 0, 0] ∧
    ∃ w', sample.read .strict 6 2 5 (.start (Array.replicate 6 0)) = .ok 5 w' := by
  have failed : sample.read .strict 6 3 4 (.start (Array.replicate 6 0)) =
      .error (.failure (.badCluster 5)) ⟨#[31, 32, 0, 0, 0, 0],
        #[.clusterVisited ⟨3, by decide⟩ 72 (.next 5), .clusterVisited ⟨5, by decide⟩ 76 .bad],
        0, #[2]⟩ := by cbv
  have completes : sample.Completes 2 5 2 :=
    ⟨by decide, by decide +kernel, fun i inner => by
      have : i = 0 := by omega
      subst this
      decide, .inr ⟨1, rfl, by decide +kernel⟩⟩
  exact ⟨((read_fails_iff sample .strict 3 4 (.start (Array.replicate 6 0))).1 _ _).mp
      ⟨_, failed, rfl⟩,
    (read_fails_iff sample .strict 2 5 (.start (Array.replicate 6 0))).2.2 2 (by decide) (by decide)
      (by decide) completes⟩

end BootDisk.Volume
