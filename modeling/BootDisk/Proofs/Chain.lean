import BootDisk.Volume

/-!
# Chains of clusters

The table words of a volume link its clusters into chains. Here a chain is what the bytes of the
image say it is, in plain numbers and without any reading of files: `chain first k` is its cluster
number `k`, `refusal?` is why the image cannot serve a visit of a cluster, and `demand` is how many
bytes such a visit takes.

A read of `size` bytes `Reaches` its visit `k` if bytes are still wanted there and every visit
before it went on to a next cluster. It then either `FailsAt` some visit or `Completes`, and what
happens is settled by the chain alone (`FailsAt.unique`, `Completes.not_failsAt`).
-/

namespace BootDisk.Volume

variable (v : Volume)

/-- The length of a cluster, as a number. -/
def clusterLength : Nat :=
  v.layout.clusterSize.toNat

/-- Where the table word of a cluster is. -/
def wordPosition (c : Nat) : Nat :=
  v.layout.tableOffset.toNat + 2 * c

/-- Where the bytes of a cluster start. Clusters are numbered from two. -/
def dataPosition (c : Nat) : Nat :=
  v.layout.dataOffset.toNat + (c - 2) * v.clusterLength

/-- The table word of a cluster, as a number. Bytes past the image count as zero. -/
def wordOf (c : Nat) : Nat :=
  LittleEndian.decode
    [v.image.getD (v.wordPosition c) 0, v.image.getD (v.wordPosition c + 1) 0]

/-- The clusters of the chain that starts at `first`, one after the other. -/
def chain (first : Nat) : Nat → Nat
  | 0 => first
  | k + 1 => v.wordOf (chain first k)

/-- How many of the bytes still wanted a cluster is to supply: all of them if it ends its chain,
otherwise no more than it has. -/
def demand (c wanted : Nat) : Nat :=
  if 0xFFF8 ≤ v.wordOf c then wanted else min v.clusterLength wanted

/-- Why the image cannot serve a visit of a cluster, if it cannot. -/
def refusal? (c wanted : Nat) : Option Abort :=
  if c < 2 then
    some (.invalidCluster c)
  else if v.image.size < v.wordPosition c + 2 then
    some (.outOfBounds (v.wordPosition c) 2)
  else if v.wordOf c = 0xFFF7 then
    some (.badCluster c)
  else if v.image.size < v.dataPosition c + v.demand c wanted then
    some (.outOfBounds (v.dataPosition c) (v.demand c wanted))
  else
    none

/-- A visit that the image serves and that leads on to a next cluster. -/
structure GoesOn (c wanted : Nat) : Prop where
  served : v.refusal? c wanted = none
  linked : v.wordOf c < 0xFFF8

/-- A read of `size` bytes gets as far as its visit `k`: bytes are still wanted, and every visit
before it went on. -/
structure Reaches (first size k : Nat) : Prop where
  wanted : k * v.clusterLength < size
  goesOn : ∀ i < k, v.GoesOn (v.chain first i) (size - i * v.clusterLength)

/-- A read fails at its visit `k`. -/
structure FailsAt (first size k : Nat) (reason : Abort) : Prop extends v.Reaches first size k where
  refused : v.refusal? (v.chain first k) (size - k * v.clusterLength) = some reason

/-- A read gets all its bytes in `n` visits. -/
structure Completes (first size n : Nat) : Prop where
  wanted : ∀ i < n, i * v.clusterLength < size
  served : ∀ i < n, v.refusal? (v.chain first i) (size - i * v.clusterLength) = none
  linked : ∀ i, i + 1 < n → v.wordOf (v.chain first i) < 0xFFF8
  done : size ≤ n * v.clusterLength ∨ ∃ i, i + 1 = n ∧ 0xFFF8 ≤ v.wordOf (v.chain first i)

/-- The first `k` visits of a read were all made and all went on. -/
def Passed (first size k : Nat) : Prop :=
  ∀ i < k, i * v.clusterLength < size ∧ v.GoesOn (v.chain first i) (size - i * v.clusterLength)

theorem clusterLength_pos : 0 < v.clusterLength :=
  v.clusterSize_pos

theorem wordOf_lt (c : Nat) : v.wordOf c < 65536 :=
  LittleEndian.decode_lt [_, _]

/-- Behind its first cluster a chain has sixteen-bit numbers only. -/
theorem chain_lt {first : Nat} (small : first < 65536) (k : Nat) : v.chain first k < 65536 := by
  cases k with
  | zero => exact small
  | succ k => exact v.wordOf_lt _

variable {v}

/-- What a served visit found: a cluster that exists, with its word and its bytes in the image. -/
theorem served_iff {c wanted : Nat} :
    v.refusal? c wanted = none ↔
      2 ≤ c ∧ v.wordPosition c + 2 ≤ v.image.size ∧ v.wordOf c ≠ 0xFFF7 ∧
        v.dataPosition c + v.demand c wanted ≤ v.image.size := by
  unfold refusal?
  repeat' split
  all_goals simp only [reduceCtorEq, false_iff, true_iff]; omega

theorem demand_of_linked {c wanted : Nat} (linked : v.wordOf c < 0xFFF8) :
    v.demand c wanted = min v.clusterLength wanted :=
  if_neg (by omega)

theorem demand_of_ended {c wanted : Nat} (ended : 0xFFF8 ≤ v.wordOf c) :
    v.demand c wanted = wanted :=
  if_pos ended

theorem demand_le (c wanted : Nat) : v.demand c wanted ≤ wanted := by
  unfold demand
  split <;> omega

/-- In front of a visit that is reached, every cluster supplies its whole length. -/
theorem Reaches.demand_eq {first size k i : Nat} (h : v.Reaches first size k) (before : i < k) :
    v.demand (v.chain first i) (size - i * v.clusterLength) = v.clusterLength := by
  rw [demand_of_linked (h.goesOn i before).linked]
  have step : (i + 1) * v.clusterLength ≤ k * v.clusterLength := Nat.mul_le_mul_right _ before
  have := h.wanted
  rw [Nat.succ_mul] at step
  omega

theorem Passed.zero (v : Volume) (first size : Nat) : v.Passed first size 0 :=
  fun i h => absurd h (Nat.not_lt_zero i)

theorem Passed.succ {first size k : Nat} (h : v.Passed first size k)
    (wanted : k * v.clusterLength < size)
    (goesOn : v.GoesOn (v.chain first k) (size - k * v.clusterLength)) :
    v.Passed first size (k + 1) := by
  intro i before
  rcases Nat.lt_succ_iff_lt_or_eq.mp before with before | rfl
  · exact h i before
  · exact ⟨wanted, goesOn⟩

theorem Passed.reaches {first size k : Nat} (h : v.Passed first size k)
    (wanted : k * v.clusterLength < size) : v.Reaches first size k :=
  ⟨wanted, fun i before => (h i before).2⟩

/-- Nothing more is wanted behind visits that all went on. -/
theorem Passed.completes {first size k : Nat} (h : v.Passed first size k)
    (covered : size ≤ k * v.clusterLength) : v.Completes first size k where
  wanted i before := (h i before).1
  served i before := (h i before).2.served
  linked i before := (h i (by omega)).2.linked
  done := .inl covered

/-- The chain ends in a cluster that is served. -/
theorem Passed.completes_of_ended {first size k : Nat} (h : v.Passed first size k)
    (wanted : k * v.clusterLength < size)
    (served : v.refusal? (v.chain first k) (size - k * v.clusterLength) = none)
    (ended : 0xFFF8 ≤ v.wordOf (v.chain first k)) : v.Completes first size (k + 1) where
  wanted i before := by
    rcases Nat.lt_succ_iff_lt_or_eq.mp before with before | rfl
    · exact (h i before).1
    · exact wanted
  served i before := by
    rcases Nat.lt_succ_iff_lt_or_eq.mp before with before | rfl
    · exact (h i before).2.served
    · exact served
  linked i before := (h i (by omega)).2.linked
  done := .inr ⟨k, rfl, ended⟩

/-- A read fails at one visit only, and for one reason. -/
theorem FailsAt.unique {first size k k' : Nat} {reason reason' : Abort}
    (h : v.FailsAt first size k reason) (h' : v.FailsAt first size k' reason') :
    k = k' ∧ reason = reason' := by
  rcases Nat.lt_trichotomy k k' with before | rfl | after
  · have served := (h'.goesOn k before).served
    rw [h.refused] at served
    cases served
  · exact ⟨rfl, Option.some.inj (h.refused.symm.trans h'.refused)⟩
  · have served := (h.goesOn k' after).served
    rw [h'.refused] at served
    cases served

/-- A read that gets all its bytes does not fail. -/
theorem Completes.not_failsAt {first size n k : Nat} {reason : Abort}
    (h : v.Completes first size n) : ¬ v.FailsAt first size k reason := by
  intro fails
  by_cases before : k < n
  · have served := h.served k before
    rw [fails.refused] at served
    cases served
  · rcases h.done with covered | ⟨i, rfl, ended⟩
    · have : n * v.clusterLength ≤ k * v.clusterLength := Nat.mul_le_mul_right _ (by omega)
      have := fails.wanted
      omega
    · have := (fails.goesOn i (by omega)).linked
      omega

/-- All visits but the last of a complete read supply whole clusters. -/
theorem Completes.demand_eq {first size n i : Nat} (h : v.Completes first size n)
    (inner : i + 1 < n) :
    v.demand (v.chain first i) (size - i * v.clusterLength) = v.clusterLength := by
  rw [demand_of_linked (h.linked i inner)]
  have := h.wanted (i + 1) inner
  rw [Nat.succ_mul] at this
  omega

/-- Unless the chain ends at its last visit, a complete read has all the clusters that its bytes
fill. -/
theorem Completes.covered {first size i : Nat} (h : v.Completes first size (i + 1))
    (linked : v.wordOf (v.chain first i) < 0xFFF8) : size ≤ (i + 1) * v.clusterLength := by
  rcases h.done with covered | ⟨j, same, ended⟩
  · exact covered
  · cases same
    exact absurd linked (Nat.not_lt.mpr ended)

/-- The last visit of a complete read supplies all that is left. -/
theorem Completes.demand_last {first size i : Nat} (h : v.Completes first size (i + 1)) :
    v.demand (v.chain first i) (size - i * v.clusterLength) = size - i * v.clusterLength := by
  rcases Nat.lt_or_ge (v.wordOf (v.chain first i)) 0xFFF8 with linked | ended
  · have covered := h.covered linked
    rw [Nat.succ_mul] at covered
    rw [demand_of_linked linked]
    omega
  · exact demand_of_ended ended

end BootDisk.Volume
