import BootDisk.Abort

/-!
# Clusters and their links

Data clusters are numbered from two; the numbers zero and one stand for nothing. The allocation
table holds one sixteen-bit word for each cluster, and the word says how the chain that runs
through the cluster goes on.
-/

namespace BootDisk

/-- A data cluster. Its number fits a table word, so two is the only bound to keep. -/
structure Cluster where
  index : UInt16
  two_le_index : 2 ≤ index
  deriving DecidableEq

namespace Cluster

/-- The lowest number of a data cluster. -/
def firstIndex : Nat := 2

/-- The highest number of a data cluster. -/
def lastIndex : Nat := 65535

/-- The cluster with a given number. -/
def ofIndex (index : Nat) : Except Abort Cluster :=
  if valid : firstIndex ≤ index ∧ index ≤ lastIndex then
    .ok
      { index := UInt16.ofNat index
        two_le_index := by
          have small : index < 65536 := by have := valid.2; simp only [lastIndex] at this; omega
          have := valid.1
          rw [UInt16.le_iff_toNat_le, UInt16.toNat_ofNat', Nat.mod_eq_of_lt small]
          exact this }
  else
    .error (.invalidCluster index)

theorem two_le_toNat_index (c : Cluster) : 2 ≤ c.index.toNat :=
  UInt16.le_iff_toNat_le.mp c.two_le_index

theorem toNat_index_inj {c c' : Cluster} : c.index.toNat = c'.index.toNat ↔ c = c' := by
  rw [UInt16.toNat_inj, Cluster.mk.injEq]

theorem toNat_index_of_ofIndex {index : Nat} {c : Cluster} (h : ofIndex index = .ok c) :
    c.index.toNat = index := by
  unfold ofIndex at h
  split at h
  · rename_i valid
    cases h
    have := valid.2
    simp only [lastIndex] at this
    simp only [UInt16.toNat_ofNat']
    omega
  · cases h

/-- The number of a cluster fits a table word. -/
theorem lt_of_ofIndex {index : Nat} {c : Cluster} (h : ofIndex index = .ok c) : index < 65536 := by
  rw [← toNat_index_of_ofIndex h]
  exact c.index.toNat_lt

/-- The numbers of data clusters. -/
theorem exists_ofIndex_iff {index : Nat} :
    (∃ c, ofIndex index = .ok c) ↔ 2 ≤ index ∧ index ≤ 65535 := by
  unfold ofIndex
  split
  · rename_i valid
    exact ⟨fun _ => valid, fun _ => ⟨_, rfl⟩⟩
  · rename_i invalid
    exact ⟨nofun, fun valid => absurd valid invalid⟩

theorem ofIndex_eq_error_iff {index : Nat} {abort : Abort} :
    ofIndex index = .error abort ↔
      (index < firstIndex ∨ lastIndex < index) ∧ abort = .invalidCluster index := by
  unfold ofIndex
  split
  · simp only [reduceCtorEq, false_iff]; omega
  · simp only [Except.error.injEq, eq_comm (a := Abort.invalidCluster index), iff_and_self]; omega

end Cluster

/-- What the table word of a cluster says about its chain. -/
inductive Link where
  /-- The chain goes on in the cluster with this number, which need not be a valid one. -/
  | next (index : UInt16)
  /-- The chain ends here. -/
  | last
  /-- The cluster is marked bad. -/
  | bad
  deriving DecidableEq

namespace Link

/-- The word that marks a bad cluster. -/
def badMark : UInt16 := 0xFFF7

/-- The least word that ends a chain. -/
def endMark : UInt16 := 0xFFF8

/-- The meaning of a table word. -/
def ofWord (word : UInt16) : Link :=
  if word = badMark then .bad
  else if endMark ≤ word then .last
  else .next word

/-- How a link is shown in the log. -/
def text : Link → String
  | next index => "Next(" ++ toString index.toNat ++ ")"
  | last => "EndOfChain"
  | bad => "Bad"

theorem ofWord_eq_bad_iff {word : UInt16} : ofWord word = .bad ↔ word = badMark := by
  unfold ofWord; split <;> (try split) <;> simp_all

theorem ofWord_eq_last_iff {word : UInt16} : ofWord word = .last ↔ endMark ≤ word := by
  unfold ofWord
  split
  · rename_i h; subst h; simp [badMark, endMark]
  · split <;> simp_all

/-- A link goes on exactly when its word is below both marks, and then to the word itself. -/
theorem ofWord_eq_next_iff {word index : UInt16} :
    ofWord word = .next index ↔ word < badMark ∧ index = word := by
  unfold ofWord
  split
  · rename_i h; subst h; simp
  · rename_i notBad
    split
    · rename_i ended
      simp only [reduceCtorEq, false_iff, not_and]
      intro h
      simp only [badMark, endMark, UInt16.lt_iff_toNat_lt, UInt16.le_iff_toNat_le] at h ended
      simp at h ended
      omega
    · rename_i notEnded
      have below : word < badMark := by
        simp only [badMark, endMark, UInt16.lt_iff_toNat_lt, UInt16.le_iff_toNat_le,
          ← UInt16.toNat_inj] at notBad notEnded ⊢
        simp at notBad notEnded ⊢
        omega
      simp [below, eq_comm]

end Link

end BootDisk
