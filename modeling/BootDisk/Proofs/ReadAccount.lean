import BootDisk.Proofs.Messages
import BootDisk.Proofs.ReadOutcome

/-!
# What a read logs and copies

A read visits clusters, and each visit leaves traces of two kinds: an event that tells of the visit
(`TellsOf`), and a copy of the bytes of the cluster. The two are kept in step. A read that succeeds
has one copy for each event and as many of both as its bytes and the end of its chain call for
(`AddsUp`). A read that breaks off at visit `k` has the copies of the `k` clusters in front, and the
event of the visit itself only if it got to know the table word (`StopsAt`).
-/

namespace BootDisk

open Loader

theorem Event.line_clusterVisited (cluster : Cluster) (offset : UInt64) (link : Link) :
    (Event.clusterVisited cluster offset link).line =
      "TRACE Cluster " ++ (toString cluster.index.toNat ++ (" at " ++
        (Hexadecimal.number offset.toNat ++ (" -> " ++ link.text)))) := by
  have start : "TRACE Cluster " = "TRACE" ++ " " ++ "Cluster " := by decide +kernel
  calc
    (Event.clusterVisited cluster offset link).line =
        "TRACE" ++ " " ++ ("Cluster " ++ toString cluster.index.toNat ++ " at " ++
          Hexadecimal.number offset.toNat ++ " -> " ++ link.text) := rfl
    _ = _ := by simp only [start, String.append_assoc]

/-- The line of a visit tells the visit: the cluster, where its bytes start, and its link. -/
theorem Event.line_clusterVisited_inj {cluster cluster' : Cluster} {offset offset' : UInt64}
    {link link' : Link} :
    (clusterVisited cluster offset link).line = (clusterVisited cluster' offset' link').line ↔
      cluster = cluster' ∧ offset = offset' ∧ link = link' := by
  constructor
  · intro same
    rw [line_clusterVisited, line_clusterVisited, String.append_right_inj] at same
    obtain ⟨number, behind⟩ := decimal_append_inj (by decide) same
    obtain ⟨position, text⟩ := Hexadecimal.number_append_inj (by decide) behind
    exact ⟨Cluster.toNat_index_inj.mp number, UInt64.toNat_inj.mp position,
      Link.text_inj.mp text⟩
  · rintro ⟨rfl, rfl, rfl⟩
    rfl

namespace Volume

variable {v : Volume} {first size k : Nat}

/-- An event that tells of a visit of a cluster: its number, where its bytes start, and what its
table word, which is inside the image, says. -/
inductive TellsOf (v : Volume) (c : Nat) : Event → Prop where
  | visited {cluster : Cluster} {offset : UInt64} (number : cluster.index.toNat = c)
    (position : offset.toNat = v.dataPosition c) (word_inside : v.wordPosition c + 2 ≤ v.image.size) :
    TellsOf v c (.clusterVisited cluster offset (.ofWord (UInt16.ofNat (v.wordOf c))))

theorem TellsOf.level_eq {c : Nat} {event : Event} (h : v.TellsOf c event) :
    event.level = .trace := by
  cases h with
  | visited => rfl

/-- The line of the log that tells of a visit. -/
theorem TellsOf.line_eq {c : Nat} {event : Event} (h : v.TellsOf c event) :
    event.line = "TRACE Cluster " ++ (toString c ++ (" at " ++
      (Hexadecimal.number (v.dataPosition c) ++
        (" -> " ++ (Link.ofWord (UInt16.ofNat (v.wordOf c))).text)))) := by
  cases h with
  | visited number position => rw [Event.line_clusterVisited, number, position]

theorem IsVisit.tellsOf {c wanted : Nat} {visit : Visit} (h : v.IsVisit c wanted visit) :
    v.TellsOf c (.clusterVisited visit.cluster visit.offset visit.link) := by
  rw [h.link]
  exact .visited h.index h.offset h.word_inside

/-- The events of the visits of a trail tell of the clusters of the chain in their order. -/
theorem Trail.tellsOf {supplied : Array Visit} (trail : v.Trail first size k supplied) (j : Nat)
    (inside : j < (supplied.map fun visit =>
      Event.clusterVisited visit.cluster visit.offset visit.link).size) :
    v.TellsOf (v.chain first j) (supplied.map fun visit =>
      Event.clusterVisited visit.cluster visit.offset visit.link)[j] := by
  rw [Array.getElem_map]
  exact (trail.visits j (by rwa [Array.size_map] at inside)).tellsOf

/-! Reads that succeed. -/

/-- How many clusters a read of a chain takes: those that its bytes fill, but none behind the first
one that ends the chain. -/
def visitCount (v : Volume) (first size : Nat) : Nat :=
  match v.chainEnd? first size with
  | some e => min ((size + v.clusterLength - 1) / v.clusterLength) (e + 1)
  | none => (size + v.clusterLength - 1) / v.clusterLength

/-- The number of clusters that some bytes fill, the last of them perhaps in part. -/
theorem visits_eq (v : Volume) (low : k * v.clusterLength < size)
    (high : size ≤ (k + 1) * v.clusterLength) :
    (size + v.clusterLength - 1) / v.clusterLength = k + 1 := by
  have reached := v.lt_visits_iff.mpr low
  have last : ¬ k + 1 < (size + v.clusterLength - 1) / v.clusterLength := by
    rw [v.lt_visits_iff]
    omega
  omega

/-- A complete read makes as many visits as are to be counted. -/
theorem Completes.eq_visitCount {n : Nat} (h : v.Completes first size n) :
    n = v.visitCount first size := by
  cases n with
  | zero =>
    have none : (size + v.clusterLength - 1) / v.clusterLength = 0 := by
      apply Nat.eq_zero_of_not_pos
      rw [v.lt_visits_iff]
      rcases h.done with covered | ⟨i, same, -⟩ <;> omega
    unfold visitCount
    rw [none]
    split
    · exact (Nat.zero_min _).symm
    · rfl
  | succ i =>
    have last := h.wanted i (Nat.lt_succ_self i)
    have reached := v.lt_visits_iff.mpr last
    unfold visitCount
    cases found : v.chainEnd? first size with
    | none => exact (v.visits_eq last (h.covered (chainEnd?_eq_none found last))).symm
    | some e =>
      obtain ⟨wanted, ended, before⟩ := chainEnd?_eq_some found
      rcases Nat.lt_trichotomy e i with early | rfl | late
      · have := h.linked e (by omega)
        omega
      · exact (Nat.min_eq_right reached).symm
      · have enough := h.covered (before i late)
        have : (i + 1) * v.clusterLength ≤ e * v.clusterLength := Nat.mul_le_mul_right _ late
        omega

/-- The account of a read that has all its bytes. -/
structure AddsUp (v : Volume) (first size : Nat) (events : Array Event) (lengths : Array Nat) :
    Prop where
  tells : ∀ j (h : j < events.size), v.TellsOf (v.chain first j) events[j]
  count : events.size = v.visitCount first size
  copied : lengths.size = events.size
  whole : ∀ j (h : j + 1 < lengths.size), lengths[j] = v.clusterLength
  nonempty : ∀ j (h : j < lengths.size), 0 < lengths[j]
  sum : lengths.sum = size

theorem size_supplies (v : Volume) (visits : List Visit) :
    (v.supplies visits).size = (visits.map fun visit => (v.supply visit).size).sum := by
  induction visits with
  | nil => rfl
  | cons visit visits ih => rw [supplies, Array.size_append, ih, List.map_cons, List.sum_cons]

/-- What is copied at a visit of a complete read. -/
theorem Arrives.getElem_lengths {n j : Nat} {walk : Walk} (h : v.Arrives first size n walk)
    (inside : j < (walk.supplied.map fun visit => (v.supply visit).size).size) :
    (walk.supplied.map fun visit => (v.supply visit).size)[j] =
      v.demand (v.chain first j) (size - j * v.clusterLength) := by
  have supplied := h.trail.size_supply h.completes.served
    (show j < walk.supplied.toList.length by rwa [Array.size_map] at inside)
  rw [Array.getElem_map, ← supplied, Array.getElem_toList]

/-- A walk that arrives adds up. -/
theorem Arrives.addsUp {n : Nat} {walk : Walk} (h : v.Arrives first size n walk) :
    v.AddsUp first size
      (walk.visits.map fun visit => .clusterVisited visit.cluster visit.offset visit.link)
      (walk.supplied.map fun visit => (v.supply visit).size) := by
  have visits : walk.visits = walk.supplied := by rw [Walk.visits, h.ending]
  have count := h.trail.size_eq
  rw [visits]
  refine ⟨h.trail.tellsOf, ?_, ?_, ?_, ?_, ?_⟩
  · rw [Array.size_map, count, ← h.completes.eq_visitCount]
  · rw [Array.size_map, Array.size_map]
  · intro j inside
    rw [h.getElem_lengths, h.completes.demand_eq]
    rwa [Array.size_map, count] at inside
  · intro j inside
    have position := inside
    rw [Array.size_map, count] at position
    have unread := h.completes.wanted j position
    have length := v.clusterLength_pos
    rw [h.getElem_lengths, demand]
    split <;> omega
  · rw [← h.size_gather, gather_eq, size_supplies, ← Array.toList_map, Array.sum_toList]

/-! Reads that break off. -/

/-- Why a visit is refused, with the number of events that tell of it: none if its table word was
not read, and one if the word was. -/
inductive Refuses (v : Volume) (c wanted : Nat) : Abort → Nat → Prop where
  | noCluster (small : c < 2) : Refuses v c wanted (.invalidCluster c) 0
  | noWord (valid : 2 ≤ c) (outside : v.image.size < v.wordPosition c + 2) :
    Refuses v c wanted (.outOfBounds (v.wordPosition c) 2) 0
  | bad (valid : 2 ≤ c) (inside : v.wordPosition c + 2 ≤ v.image.size)
    (marked : v.wordOf c = 0xFFF7) : Refuses v c wanted (.badCluster c) 1
  | noBytes (valid : 2 ≤ c) (inside : v.wordPosition c + 2 ≤ v.image.size)
    (sound : v.wordOf c ≠ 0xFFF7)
    (outside : v.image.size < v.dataPosition c + v.demand c wanted) :
    Refuses v c wanted (.outOfBounds (v.dataPosition c) (v.demand c wanted)) 1

/-- A refused visit is told of if its cluster exists and the table word is inside the image. -/
theorem refuses_of_refusal? {c wanted : Nat} {reason : Abort}
    (refused : v.refusal? c wanted = some reason) :
    v.Refuses c wanted reason
      (if c < 2 ∨ v.image.size < v.wordPosition c + 2 then 0 else 1) := by
  unfold refusal? at refused
  split at refused
  · rename_i small
    cases refused
    rw [if_pos (.inl small)]
    exact .noCluster small
  · rename_i valid
    split at refused
    · rename_i outside
      cases refused
      rw [if_pos (.inr outside)]
      exact .noWord (Nat.not_lt.mp valid) outside
    · rename_i inside
      rw [if_neg (not_or.mpr ⟨valid, inside⟩)]
      split at refused
      · rename_i marked
        cases refused
        exact .bad (Nat.not_lt.mp valid) (Nat.not_lt.mp inside) marked
      · rename_i sound
        split at refused
        · rename_i crosses
          cases refused
          exact .noBytes (Nat.not_lt.mp valid) (Nat.not_lt.mp inside) sound crosses
        · cases refused

/-- The account of a read that breaks off at its visit `k`, of which `told` events tell. -/
structure StopsAt (v : Volume) (first size k told : Nat) (reason : Abort) (events : Array Event)
    (lengths : Array Nat) : Prop where
  reaches : v.Reaches first size k
  refuses : v.Refuses (v.chain first k) (size - k * v.clusterLength) reason told
  tells : ∀ j (h : j < events.size), v.TellsOf (v.chain first j) events[j]
  count : events.size = k + told
  whole : lengths = Array.replicate k v.clusterLength

/-- A walk that breaks off has told of its visits up to the refused one, and of that if it read its
word. -/
theorem BreaksOff.stopsAt {reason : Abort} {walk : Walk} (h : v.BreaksOff first size k reason walk) :
    ∃ told, v.StopsAt first size k told reason
      (walk.visits.map fun visit => .clusterVisited visit.cluster visit.offset visit.link)
      (walk.supplied.map fun visit => (v.supply visit).size) := by
  have refuses := refuses_of_refusal? h.fails.refused
  rcases h.ending with ⟨ending, unread⟩ | ⟨visit, ending, isVisit⟩
  · have visits : walk.visits = walk.supplied := by rw [Walk.visits, ending]
    rw [if_pos unread] at refuses
    rw [visits]
    exact ⟨0, h.fails.toReaches, refuses, h.trail.tellsOf,
      by rw [Array.size_map, h.trail.size_eq, Nat.add_zero], h.map_supplied⟩
  · have visits : walk.visits = walk.supplied.push visit := by rw [Walk.visits, ending]
    have trail := h.trail.push isVisit
    have valid := isVisit.valid
    have word := isVisit.word_inside
    rw [if_neg (by omega)] at refuses
    rw [visits]
    exact ⟨1, h.fails.toReaches, refuses, trail.tellsOf, by rw [Array.size_map, trail.size_eq],
      h.map_supplied⟩

/-- **The account of a read.** Every read, whatever its chain, tells of the clusters whose table
words it reads, in the order of the chain. If it succeeds, there is one copy for each event, as many
as the bytes fill or up to the end of the chain; all copies but the last are of whole clusters, the
last has bytes too, and together they have the bytes that were asked for. If it breaks off at visit
`k`, exactly the `k` clusters in front were copied, each as a whole, and the visit `k` is told of if
its table word was read. If the first cluster does not exist or the room is too small, nothing is
told or copied. What is told of a cluster is its number, where its bytes start and what its table
word says. -/
theorem read_account (v : Volume) (memory : Memory) (first size : UInt32) (w : Workspace) :
    (∀ n left, v.read memory w.destination.size first size w = .ok n left →
      ∃ events lengths, left.log = w.log ++ events ∧ left.copies = w.copies ++ lengths ∧
        v.AddsUp first.toNat size.toNat events lengths) ∧
    (∀ stop left, v.read memory w.destination.size first size w = .error stop left →
      2 ≤ first.toNat → first.toNat ≤ 65535 → size.toNat ≤ w.destination.size →
        ∃ reason k told events lengths, stop = .failure reason ∧ left.log = w.log ++ events ∧
          left.copies = w.copies ++ lengths ∧
          v.StopsAt first.toNat size.toNat k told reason events lengths) ∧
    (¬ (2 ≤ first.toNat ∧ first.toNat ≤ 65535) ∨ w.destination.size < size.toNat →
      ∃ reason, v.read memory w.destination.size first size w = .error (.failure reason) w) ∧
    ∀ c event, v.TellsOf c event → event.level = .trace ∧
      event.line = "TRACE Cluster " ++ (toString c ++ (" at " ++
        (Hexadecimal.number (v.dataPosition c) ++
          (" -> " ++ (Link.ofWord (UInt16.ofNat (v.wordOf c))).text)))) := by
  refine ⟨?_, ?_, ?_, fun c event tells => ⟨tells.level_eq, tells.line_eq⟩⟩
  · intro n left succeeded
    obtain ⟨small, -, sound, -, rfl⟩ := eq_of_read_eq_ok (Nat.le_refl _) succeeded
    obtain ⟨visits, arrived⟩ := arrives_of_failure?_eq_none small sound
    exact ⟨_, _, rfl, rfl, arrived.addsUp⟩
  · intro stop left failed low high fits
    obtain ⟨cluster, isCluster⟩ := Cluster.exists_ofIndex_iff.mpr ⟨low, high⟩
    rw [read_of_walk isCluster fits (Nat.le_refl _)] at failed
    rcases v.walk_cases (Nat.lt_succ_of_le high) size with ⟨k, reason, broken⟩ | ⟨n, arrived⟩
    · rw [broken.failure?_eq] at failed
      cases failed
      obtain ⟨told, stops⟩ := broken.stopsAt
      exact ⟨reason, k, told, _, _, rfl, rfl, rfl, stops⟩
    · rw [arrived.failure?_eq] at failed
      cases failed
  · intro refused
    by_cases valid : 2 ≤ first.toNat ∧ first.toNat ≤ 65535
    · obtain ⟨cluster, isCluster⟩ := Cluster.exists_ofIndex_iff.mpr valid
      exact ⟨_, read_of_no_room isCluster (refused.resolve_left (not_not_intro valid))⟩
    · exact ⟨_, read_of_invalid valid⟩

/-- Five bytes along a chain of two clusters are two copies, the second one longer than a
cluster. Four bytes along a chain that runs into a bad cluster are one copy, and both clusters
are told of. -/
theorem read_account_sample :
    (∃ left, sample.read .strict 6 2 5 (.start (Array.replicate 6 0)) = .ok 5 left ∧
      left.copies = #[2, 3] ∧ sample.visitCount 2 5 = 2 ∧
      sample.AddsUp 2 5 left.log left.copies) ∧
    (∃ left, sample.read .strict 6 3 4 (.start (Array.replicate 6 0)) =
        .error (.failure (.badCluster 5)) left ∧
      left.copies = #[2] ∧ sample.StopsAt 3 4 1 1 (.badCluster 5) left.log left.copies) ∧
    ∃ reason, sample.read .strict 6 1 4 (.start (Array.replicate 6 0)) =
      .error (.failure reason) (.start (Array.replicate 6 0)) := by
  have succeeded : sample.read .strict 6 2 5 (.start (Array.replicate 6 0)) =
      .ok 5 ⟨#[21, 22, 41, 42, 51, 0], #[.clusterVisited ⟨2, by decide⟩ 70 (.next 4),
        .clusterVisited ⟨4, by decide⟩ 74 .last], 0, #[2, 3]⟩ := by cbv
  have failed : sample.read .strict 6 3 4 (.start (Array.replicate 6 0)) =
      .error (.failure (.badCluster 5)) ⟨#[31, 32, 0, 0, 0, 0],
        #[.clusterVisited ⟨3, by decide⟩ 72 (.next 5), .clusterVisited ⟨5, by decide⟩ 76 .bad],
        0, #[2]⟩ := by cbv
  obtain ⟨addsUp, -⟩ := read_account sample .strict 2 5 (.start (Array.replicate 6 0))
  obtain ⟨-, stops, -⟩ := read_account sample .strict 3 4 (.start (Array.replicate 6 0))
  obtain ⟨-, -, refused, -⟩ := read_account sample .strict 1 4 (.start (Array.replicate 6 0))
  obtain ⟨events, lengths, log, copies, account⟩ := addsUp _ _ succeeded
  obtain ⟨reason, k, told, events', lengths', same, log', copies', stopped⟩ :=
    stops _ _ failed (by decide) (by decide) (by decide)
  simp only [Workspace.start, Array.empty_append] at log copies log' copies'
  subst log copies log' copies'
  cases same
  -- One copy was made and two events were logged, so `k` and `told` are one.
  have one : k = 1 := by simpa using (congrArg Array.size stopped.whole).symm
  subst one
  have told_eq : told = 1 := Nat.add_left_cancel stopped.count.symm
  subst told_eq
  exact ⟨⟨_, succeeded, rfl, by decide +kernel, account⟩, ⟨_, failed, rfl, stopped⟩,
    refused (.inl (by decide))⟩

end Volume

end BootDisk
