import BootDisk.Volume

/-!
# Walking a chain

A file is read along its chain: cluster after cluster is *visited* until as many bytes are
supplied as the file has. One visit reads the table word of the cluster and settles how many bytes
the cluster is to supply. The cluster that ends a chain supplies all the bytes that are still
wanted, past its own end if need be; every other cluster supplies at most its own length.

`walk` decides all of this from the image alone, before a byte is copied. What it finds is a
`Walk`: the visits whose bytes are there, in order, and how it ended. It ends on every chain,
because every cluster supplies at least one of the bytes still wanted.
-/

namespace BootDisk

/-- What a visit of a cluster found out. -/
structure Visit where
  cluster : Cluster
  /-- Where the bytes of the cluster are. -/
  offset : UInt64
  link : Link
  /-- How many bytes the cluster is to supply. -/
  length : UInt64
  deriving DecidableEq

/-- How a walk ends. -/
inductive Ending where
  /-- Nothing more is wanted, or the chain is over. -/
  | complete
  /-- The next cluster does not exist or has no table word. -/
  | lost (reason : Abort)
  /-- The link of the next cluster was read, but the cluster cannot supply its bytes. -/
  | refused (visit : Visit) (reason : Abort)
  deriving DecidableEq

/-- A walk along a chain. -/
structure Walk where
  /-- The visits whose bytes are there, in order. -/
  supplied : Array Visit
  ending : Ending
  deriving DecidableEq

namespace Walk

/-- The visits of all clusters whose link was read, in order. -/
def visits (walk : Walk) : Array Visit :=
  match walk.ending with
  | .refused visit _ => walk.supplied.push visit
  | _ => walk.supplied

/-- Why the walk broke off, if it did. -/
def failure? (walk : Walk) : Option Abort :=
  match walk.ending with
  | .complete => none
  | .lost reason | .refused _ reason => some reason

end Walk

namespace Volume

variable (v : Volume)

/-- How many of the bytes still wanted a cluster with this link is to supply. -/
def supplyLength (link : Link) (wanted : UInt64) : UInt64 :=
  match link with
  | .last => wanted
  | _ => min wanted v.layout.clusterSize

/-- Visits the cluster with a given number while some bytes are still wanted. -/
def visit (index : Nat) (wanted : UInt64) : Except Abort Visit := do
  let cluster ← Cluster.ofIndex index
  let word ← v.tableWord cluster
  let link := Link.ofWord word
  return { cluster, offset := v.clusterOffset cluster, link, length := v.supplyLength link wanted }

/-- Fails unless the visited cluster can supply its bytes. -/
def checkSupply (visit : Visit) : Except Abort Unit :=
  if visit.link = .bad then
    .error (.badCluster visit.cluster.index.toNat)
  else if v.contains visit.offset visit.length then
    .ok ()
  else
    .error (.outOfBounds visit.offset.toNat visit.length.toNat)

/-- The bytes a visited cluster supplies. -/
def supply (visit : Visit) : Bytes :=
  v.image.extract visit.offset.toNat (visit.offset.toNat + visit.length.toNat)

theorem supplyLength_le (link : Link) (wanted : UInt64) :
    (v.supplyLength link wanted).toNat ≤ wanted.toNat := by
  unfold supplyLength
  split
  · exact Nat.le_refl _
  · show (if wanted ≤ v.layout.clusterSize then wanted else v.layout.clusterSize).toNat ≤ _
    split
    · exact Nat.le_refl _
    · rename_i h; rw [UInt64.le_iff_toNat_le] at h; omega

theorem supplyLength_pos (link : Link) {wanted : UInt64} (h : wanted ≠ 0) :
    0 < (v.supplyLength link wanted).toNat := by
  have some : 0 < wanted.toNat :=
    Nat.pos_of_ne_zero fun none => h (UInt64.toNat_inj.mp none)
  unfold supplyLength
  split
  · exact some
  · show 0 < (if wanted ≤ v.layout.clusterSize then wanted else v.layout.clusterSize).toNat
    split
    · exact some
    · exact v.clusterSize_pos

/-- A visit settles its length by its link. -/
theorem length_of_visit {index : Nat} {wanted : UInt64} {visit : Visit}
    (h : v.visit index wanted = .ok visit) :
    visit.length = v.supplyLength visit.link wanted := by
  unfold Volume.visit at h
  cases hc : Cluster.ofIndex index with
  | error => simp [hc, bind, Except.bind] at h
  | ok cluster =>
    cases hw : v.tableWord cluster with
    | error => simp [hc, hw, bind, Except.bind] at h
    | ok word =>
      simp only [hc, hw, bind, Except.bind, pure, Except.pure, Except.ok.injEq] at h
      rw [← h]

/-- After a visit, what is still wanted is what was wanted less what the cluster supplies. -/
theorem toNat_wanted_sub {index : Nat} {wanted : UInt64} {visit : Visit}
    (visited : v.visit index wanted = .ok visit) :
    (wanted - visit.length).toNat = wanted.toNat - visit.length.toNat := by
  apply UInt64.toNat_sub_of_le
  rw [UInt64.le_iff_toNat_le, v.length_of_visit visited]
  exact v.supplyLength_le visit.link wanted

/-- Every visit supplies at least one of the bytes still wanted. -/
theorem toNat_wanted_sub_lt {index : Nat} {wanted : UInt64} {visit : Visit} (some : wanted ≠ 0)
    (visited : v.visit index wanted = .ok visit) :
    (wanted - visit.length).toNat < wanted.toNat := by
  have le := v.supplyLength_le visit.link wanted
  have pos := v.supplyLength_pos visit.link some
  rw [v.toNat_wanted_sub visited, v.length_of_visit visited]
  omega

/-- Goes on along a chain from the cluster with a given number, after the visits in `supplied`. -/
def walkFrom (index : Nat) (wanted : UInt64) (supplied : Array Visit) : Walk :=
  if satisfied : wanted = 0 then
    ⟨supplied, .complete⟩
  else
    match visited : v.visit index wanted with
    | .error reason => ⟨supplied, .lost reason⟩
    | .ok visit =>
      match v.checkSupply visit with
      | .error reason => ⟨supplied, .refused visit reason⟩
      | .ok () =>
        match visit.link with
        | .next next =>
          have := v.toNat_wanted_sub_lt satisfied visited
          walkFrom next.toNat (wanted - visit.length) (supplied.push visit)
        | _ => ⟨supplied.push visit, .complete⟩
termination_by wanted.toNat

/-- The walk that supplies `size` bytes of the chain that starts at a cluster. -/
def walk (first : Nat) (size : UInt32) : Walk :=
  v.walkFrom first size.toUInt64 #[]

/-- The walk that supplies the bytes of an entry's file, if it does not break off. -/
def walkEntry (entry : DirectoryEntry) : Except Abort Walk := do
  let _ ← Cluster.ofIndex entry.cluster.toNat
  let walk := v.walk entry.cluster.toNat entry.size
  match walk.failure? with
  | some reason => .error reason
  | none => .ok walk

/-- The bytes that a walk supplies, one cluster after the other. -/
def gather (walk : Walk) : Bytes :=
  walk.supplied.foldl (fun bytes visit => bytes ++ v.supply visit) #[]

end Volume

end BootDisk
