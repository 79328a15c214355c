import BootDisk.Proofs.ReadOutcome

/-!
# Reads of more bytes and of fewer

Reads of two sizes from one cluster visit the same clusters for as long as both want bytes. The
longer one goes on from there, but it cannot differ before: where the shorter one fails it fails
too, and where it succeeds the shorter one does, with the same bytes (`read_prefix`). Only a visit
whose bytes cross the end of the image may be refused in two ways, since the longer read may ask it
for more.
-/

namespace BootDisk

/-- Clusters of one number are one cluster. -/
theorem Cluster.eq_of_toNat_index_eq {c c' : Cluster} (same : c.index.toNat = c'.index.toNat) :
    c = c' := by
  obtain ⟨index, _⟩ := c
  obtain ⟨index', _⟩ := c'
  cases UInt16.toNat_inj.mp same
  rfl

namespace Volume

open Loader

variable {v : Volume} {memory : Memory} {first s t k c : Nat} {reason reason' : Abort}

/-- Why a visit of `c` is refused to the one who wants more, if it is refused to the one who wants
less: for the same reason, or for a stretch from the same offset on that is no shorter. -/
inductive Widens (v : Volume) (c : Nat) : Abort → Abort → Prop where
  | same (reason : Abort) : Widens v c reason reason
  | span {length length' : Nat} (outside : v.image.size < v.dataPosition c + length)
    (longer : length ≤ length') :
    Widens v c (.outOfBounds (v.dataPosition c) length) (.outOfBounds (v.dataPosition c) length')

theorem demand_mono (v : Volume) (c : Nat) {less more : Nat} (le : less ≤ more) :
    v.demand c less ≤ v.demand c more := by
  unfold demand
  split <;> omega

/-- What is refused to the one who wants less is refused to the one who wants more. -/
theorem refusal?_mono {less more : Nat} (le : less ≤ more)
    (refused : v.refusal? c less = some reason) :
    ∃ reason', v.refusal? c more = some reason' ∧ v.Widens c reason reason' := by
  have longer := v.demand_mono c le
  unfold refusal? at refused ⊢
  by_cases low : c < 2
  · rw [if_pos low] at refused ⊢
    cases refused
    exact ⟨_, rfl, .same _⟩
  · rw [if_neg low] at refused ⊢
    by_cases noWord : v.image.size < v.wordPosition c + 2
    · rw [if_pos noWord] at refused ⊢
      cases refused
      exact ⟨_, rfl, .same _⟩
    · rw [if_neg noWord] at refused ⊢
      by_cases bad : v.wordOf c = 0xFFF7
      · rw [if_pos bad] at refused ⊢
        cases refused
        exact ⟨_, rfl, .same _⟩
      · rw [if_neg bad] at refused ⊢
        by_cases outside : v.image.size < v.dataPosition c + v.demand c less
        · rw [if_pos outside] at refused
          cases refused
          exact ⟨_, if_pos (by omega), .span outside longer⟩
        · rw [if_neg outside] at refused
          cases refused

/-- The longer read gets as far as the shorter one. In front of a visit that the shorter one reaches
every cluster supplies its whole length to both. -/
theorem Reaches.of_le (h : v.Reaches first s k) (le : s ≤ t) : v.Reaches first t k where
  wanted := Nat.lt_of_lt_of_le h.wanted le
  goesOn i before := by
    obtain ⟨served, linked⟩ := h.goesOn i before
    have whole := h.demand_eq before
    have most : v.demand (v.chain first i) (t - i * v.clusterLength) ≤ v.clusterLength := by
      rw [demand_of_linked linked]
      exact Nat.min_le_left ..
    obtain ⟨valid, hasWord, sound, inside⟩ := served_iff.mp served
    exact ⟨served_iff.mpr ⟨valid, hasWord, sound, by omega⟩, linked⟩

/-- Where the shorter read fails, the longer one does. -/
theorem FailsAt.of_le (h : v.FailsAt first s k reason) (le : s ≤ t) :
    ∃ reason', v.FailsAt first t k reason' ∧ v.Widens (v.chain first k) reason reason' := by
  obtain ⟨reason', refused, widens⟩ :=
    refusal?_mono (Nat.sub_le_sub_right le (k * v.clusterLength)) h.refused
  exact ⟨reason', ⟨h.toReaches.of_le le, refused⟩, widens⟩

/-! The same visits. -/

theorem IsVisit.event_eq {wanted wanted' : Nat} {visit visit' : Visit}
    (h : v.IsVisit c wanted visit) (h' : v.IsVisit c wanted' visit') :
    Event.clusterVisited visit.cluster visit.offset visit.link =
      .clusterVisited visit'.cluster visit'.offset visit'.link := by
  have cluster : visit.cluster = visit'.cluster :=
    Cluster.eq_of_toNat_index_eq (h.index.trans h'.index.symm)
  have offset : visit.offset = visit'.offset := UInt64.toNat_inj.mp (h.offset.trans h'.offset.symm)
  rw [cluster, offset, h.link, h'.link]

theorem Trail.map_event_eq {n : Nat} {supplied supplied' : Array Visit}
    (h : v.Trail first s n supplied) (h' : v.Trail first t n supplied') :
    (supplied.map fun visit => Event.clusterVisited visit.cluster visit.offset visit.link) =
      supplied'.map fun visit => .clusterVisited visit.cluster visit.offset visit.link := by
  apply Array.ext
  · rw [Array.size_map, Array.size_map, h.size_eq, h'.size_eq]
  · intro i inside inside'
    rw [Array.size_map] at inside inside'
    rw [Array.getElem_map, Array.getElem_map]
    exact (h.visits i inside).event_eq (h'.visits i inside')

/-- Walks that break off at the same visit log the same: whether the link of the last cluster was
read does not depend on how many bytes are wanted. -/
theorem BreaksOff.map_event_eq {walk walk' : Walk} (h : v.BreaksOff first s k reason walk)
    (h' : v.BreaksOff first t k reason' walk') :
    (walk.visits.map fun visit => Event.clusterVisited visit.cluster visit.offset visit.link) =
      walk'.visits.map fun visit => .clusterVisited visit.cluster visit.offset visit.link := by
  have front := h.trail.map_event_eq h'.trail
  rcases h.ending with ⟨lost, unseen⟩ | ⟨visit, refused, isVisit⟩
  · rcases h'.ending with ⟨lost', -⟩ | ⟨visit', refused', isVisit'⟩
    · simpa only [Walk.visits, lost, lost'] using front
    · have := isVisit'.valid
      have := isVisit'.word_inside
      omega
  · rcases h'.ending with ⟨lost', unseen'⟩ | ⟨visit', refused', isVisit'⟩
    · have := isVisit.valid
      have := isVisit.word_inside
      omega
    · simp only [Walk.visits, refused, refused', Array.map_push, front, isVisit.event_eq isVisit']

/-! The same bytes. -/

/-- Whether the chain ends for the shorter read or only for the longer one, the position is supplied
by the same visit. -/
theorem supplier_of_le (v : Volume) (first : Nat) {p : Nat} (le : s ≤ t) (wanted : p < s) :
    v.supplier first t p = v.supplier first s p := by
  unfold supplier
  cases found : v.chainEnd? first s with
  | some e =>
    obtain ⟨read, ended, before⟩ := chainEnd?_eq_some found
    cases found' : v.chainEnd? first t with
    | none =>
      have := chainEnd?_eq_none found' (Nat.lt_of_lt_of_le read le)
      omega
    | some e' =>
      obtain ⟨-, ended', before'⟩ := chainEnd?_eq_some found'
      rcases Nat.lt_trichotomy e e' with early | rfl | late
      · have := before' e early
        omega
      · rfl
      · have := before e' late
        omega
  | none =>
    cases found' : v.chainEnd? first t with
    | none => rfl
    | some e' =>
      -- The chain ends only behind the bytes that the shorter read wants.
      obtain ⟨-, ended', -⟩ := chainEnd?_eq_some found'
      have behind : s ≤ e' * v.clusterLength := Nat.le_of_not_lt fun read => by
        have := chainEnd?_eq_none found read
        omega
      have own : p / v.clusterLength < e' :=
        (Nat.div_lt_iff_lt_mul v.clusterLength_pos).mpr (Nat.lt_of_lt_of_le wanted behind)
      exact Nat.min_eq_left (Nat.le_of_lt own)

theorem sourcePosition_of_le (v : Volume) (first : Nat) {p : Nat} (le : s ≤ t) (wanted : p < s) :
    v.sourcePosition first t p = v.sourcePosition first s p := by
  rw [sourcePosition, sourcePosition, v.supplier_of_le first le wanted]

/-- The bytes that a walk which arrives leaves in the destination. -/
theorem Arrives.getElem?_deliver {n p : Nat} {walk : Walk} {w : Workspace}
    (h : v.Arrives first s n walk) (fits : s ≤ w.destination.size) (wanted : p < s) :
    (v.deliver walk w).destination[p]? = v.image[v.sourcePosition first s p]? := by
  have all := h.size_gather
  rw [deliver, Bytes.getElem?_overwrite, if_pos (by omega), Nat.sub_zero,
    h.getElem?_gather_eq wanted]

/-! Two reads. -/

/-- How two reads that fail have gone the same way: the first cluster is none, or a visit was
refused to both. -/
inductive FailAlike (v : Volume) (first s t : Nat) (w w' : Workspace) :
    Abort → Abort → Workspace → Workspace → Prop where
  /-- The first cluster does not exist, and nothing is changed. -/
  | noCluster (invalid : ¬ (2 ≤ first ∧ first ≤ 65535)) :
    FailAlike v first s t w w' (.invalidCluster first) (.invalidCluster first) w w'
  /-- Visit `k` is refused. In front of it both have copied the same whole clusters, and they have
  logged the same visits. -/
  | atVisit {k : Nat} {reason reason' : Abort} {left left' : Workspace}
    (fails : v.FailsAt first s k reason) (fails' : v.FailsAt first t k reason')
    (widens : v.Widens (v.chain first k) reason reason')
    (written : v.LeftAt first k w.destination left.destination)
    (written' : v.LeftAt first k w'.destination left'.destination)
    (same : ∀ p < k * v.clusterLength, left'.destination[p]? = left.destination[p]?)
    (logs : ∃ events, left.log = w.log ++ events ∧ left'.log = w'.log ++ events) :
    FailAlike v first s t w w' reason reason' left left'

section Reads

variable {first s t : UInt32} {w w' : Workspace}

/-- Where the shorter read fails at a visit, both break off there. -/
theorem reads_failAlike (memory : Memory) (valid : 2 ≤ first.toNat ∧ first.toNat ≤ 65535) (le : s ≤ t)
    (fits : s.toNat ≤ w.destination.size) (fits' : t.toNat ≤ w'.destination.size)
    (fails : v.FailsAt first.toNat s.toNat k reason) :
    ∃ reason' left left',
      v.read memory w.destination.size first s w = .error (.failure reason) left ∧
      v.read memory w'.destination.size first t w' = .error (.failure reason') left' ∧
      v.FailAlike first.toNat s.toNat t.toNat w w' reason reason' left left' := by
  obtain ⟨cluster, isCluster⟩ := Cluster.exists_ofIndex_iff.mpr valid
  have small := Nat.lt_succ_of_le valid.2
  obtain ⟨reason', fails', widens⟩ := fails.of_le (UInt32.le_iff_toNat_le.mp le)
  have broken := fails.breaksOff small
  have broken' := fails'.breaksOff small
  have written := broken.leftAt fits
  have written' := broken'.leftAt fits'
  refine ⟨reason', v.deliver (v.walk first.toNat s) w, v.deliver (v.walk first.toNat t) w', ?_, ?_,
    .atVisit fails fails' widens written written' ?_ ⟨_, rfl, ?_⟩⟩
  · rw [read_of_walk isCluster fits (Nat.le_refl _), broken.failure?_eq]
  · rw [read_of_walk isCluster fits' (Nat.le_refl _), broken'.failure?_eq]
  · intro p inside
    rw [(written.clusters p inside).2, (written'.clusters p inside).2]
  · rw [broken.map_event_eq broken']
    rfl

/-- **A shorter read is the front of a longer one.** Let there be room for both. If the read of more
bytes succeeds, so does the read of fewer, and it leaves the bytes that the longer one has at its
front. If the read of fewer bytes fails, so does the read of more: in the same check of the first
cluster, or at the same visit, for the same reason unless the visit asks for bytes outside of the
image, of which the longer read may ask for more. By then both have logged the same visits and
written the same bytes. -/
theorem read_prefix (v : Volume) (memory : Memory) (first s t : UInt32) (w w' : Workspace) (le : s ≤ t)
    (fits : s.toNat ≤ w.destination.size) (fits' : t.toNat ≤ w'.destination.size) :
    (∀ n left', v.read memory w'.destination.size first t w' = .ok n left' →
      ∃ left, v.read memory w.destination.size first s w = .ok s left ∧
        ∀ p < s.toNat, left.destination[p]? = left'.destination[p]?) ∧
    ∀ stop left, v.read memory w.destination.size first s w = .error stop left →
      ∃ reason reason' left', stop = .failure reason ∧
        v.read memory w'.destination.size first t w' = .error (.failure reason') left' ∧
        v.FailAlike first.toNat s.toNat t.toNat w w' reason reason' left left' := by
  by_cases valid : 2 ≤ first.toNat ∧ first.toNat ≤ 65535
  · have small := Nat.lt_succ_of_le valid.2
    have le' := UInt32.le_iff_toNat_le.mp le
    rcases v.failsAt_or_completes small s with ⟨k, reason, fails⟩ | ⟨n, completes⟩
    · obtain ⟨reason', left, left', failed, failed', alike⟩ :=
        reads_failAlike memory valid le fits fits' fails
      constructor
      · intro n left₁ succeeded
        rw [failed'] at succeeded
        cases succeeded
      · intro stop left₁ ended
        rw [failed] at ended
        cases ended
        exact ⟨reason, reason', left', rfl, failed', alike⟩
    · obtain ⟨_, arrived⟩ := completes.arrives small
      have succeeded : v.read memory w.destination.size first s w = _ :=
        read_of_completes valid fits completes
      constructor
      · intro n' left' succeeded'
        obtain ⟨-, -, sound, rfl, rfl⟩ := eq_of_read_eq_ok (Nat.le_refl _) succeeded'
        obtain ⟨_, arrived'⟩ := arrives_of_failure?_eq_none small sound
        refine ⟨_, succeeded, fun p wanted => ?_⟩
        rw [arrived.getElem?_deliver fits wanted,
          arrived'.getElem?_deliver fits' (Nat.lt_of_lt_of_le wanted le'),
          v.sourcePosition_of_le first.toNat le' wanted]
      · intro stop left ended
        rw [succeeded] at ended
        cases ended
  · constructor
    · intro n left' succeeded
      rw [read_of_invalid valid] at succeeded
      cases succeeded
    · intro stop left ended
      rw [read_of_invalid valid] at ended
      cases ended
      exact ⟨_, _, w', rfl, read_of_invalid valid, .noCluster valid⟩

end Reads

/-- Two bytes of a chain are at the front of five. Where seven bytes cross the end of the image,
eight cross it further. -/
theorem read_prefix_sample :
    (∃ left, sample.read .strict 6 2 2 (.start (Array.replicate 6 0)) = .ok 2 left ∧
      ∀ p < 2, left.destination[p]? = (#[21, 22, 41, 42, 51, 0] : Bytes)[p]?) ∧
    ∃ reason' left left',
      sample.read .strict 7 2 7 (.start (Array.replicate 7 0)) =
        .error (.failure (.outOfBounds 74 5)) left ∧
      sample.read .strict 8 2 8 (.start (Array.replicate 8 9)) = .error (.failure reason') left' ∧
      sample.FailAlike 2 7 8 (.start (Array.replicate 7 0)) (.start (Array.replicate 8 9))
        (.outOfBounds 74 5) reason' left left' := by
  have five : sample.read .strict 6 2 5 (.start (Array.replicate 6 0)) =
      .ok 5 ⟨#[21, 22, 41, 42, 51, 0], #[.clusterVisited ⟨2, by decide⟩ 70 (.next 4),
        .clusterVisited ⟨4, by decide⟩ 74 .last], 0, #[2, 3]⟩ := by cbv
  have seven : sample.read .strict 7 2 7 (.start (Array.replicate 7 0)) =
      .error (.failure (.outOfBounds 74 5)) ⟨#[21, 22, 0, 0, 0, 0, 0],
        #[.clusterVisited ⟨2, by decide⟩ 70 (.next 4), .clusterVisited ⟨4, by decide⟩ 74 .last],
        0, #[2]⟩ := by cbv
  obtain ⟨shorter, -⟩ := read_prefix sample .strict 2 2 5 (.start (Array.replicate 6 0))
    (.start (Array.replicate 6 0)) (by decide) (by decide) (by decide)
  obtain ⟨-, longer⟩ := read_prefix sample .strict 2 7 8 (.start (Array.replicate 7 0))
    (.start (Array.replicate 8 9)) (by decide) (by decide) (by decide)
  obtain ⟨reason, reason', left', same, failed, alike⟩ := longer _ _ seven
  cases same
  exact ⟨shorter _ _ five, reason', _, left', seven, failed, alike⟩

end Volume

end BootDisk
