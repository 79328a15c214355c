import BootDisk.Proofs.Walk

/-!
# What a walk supplies

The bytes of the visits of a walk, one cluster after the other. As long as every visit supplies a
whole cluster, the bytes of visit `i` start at `i` cluster lengths (`getElem?_gather`). A walk that
breaks off at visit `k` has supplied exactly `k` clusters, and one that arrives all the bytes that
were asked for.
-/

namespace BootDisk.Volume

variable {v : Volume}

/-- The bytes that visits supply, one after the other. -/
def supplies (v : Volume) : List Visit → Bytes
  | [] => #[]
  | visit :: rest => v.supply visit ++ v.supplies rest

theorem supplies_append (v : Volume) (front back : List Visit) :
    v.supplies (front ++ back) = v.supplies front ++ v.supplies back := by
  induction front with
  | nil => simp [supplies]
  | cons visit front ih => simp only [List.cons_append, supplies, ih, Array.append_assoc]

theorem gather_eq (v : Volume) (walk : Walk) : v.gather walk = v.supplies walk.supplied.toList := by
  have go : ∀ (visits : List Visit) (front : Bytes),
      visits.foldl (fun bytes visit => bytes ++ v.supply visit) front = front ++ v.supplies visits := by
    intro visits
    induction visits with
    | nil => simp [supplies]
    | cons visit visits ih =>
      intro front
      rw [List.foldl_cons, ih, supplies, Array.append_assoc]
  rw [gather, ← Array.foldl_toList, go, Array.empty_append]

/-- A served visit supplies the bytes of its cluster from the first on. -/
theorem IsVisit.getElem?_supply {c wanted q : Nat} {visit : Visit} (h : v.IsVisit c wanted visit)
    (inside : q < v.demand c wanted) : (v.supply visit)[q]? = v.image[v.dataPosition c + q]? := by
  rw [supply, h.offset, h.length, Array.getElem?_extract]
  by_cases present : v.dataPosition c + q < v.image.size
  · rw [if_pos (by omega)]
  · rw [if_neg (by omega), Array.getElem?_eq_none (by omega)]

theorem IsVisit.size_supply {c wanted : Nat} {visit : Visit} (h : v.IsVisit c wanted visit)
    (served : v.refusal? c wanted = none) : (v.supply visit).size = v.demand c wanted := by
  have := (served_iff.mp served).2.2.2
  rw [supply, h.offset, h.length, Array.size_extract]
  omega

/-- Visits that each supply a whole cluster supply a whole number of clusters. -/
theorem size_supplies_take {visits : List Visit} {i : Nat} (le : i ≤ visits.length)
    (whole : ∀ j (h : j < visits.length), j < i → (v.supply visits[j]).size = v.clusterLength) :
    (v.supplies (visits.take i)).size = i * v.clusterLength := by
  induction i with
  | zero => simp [supplies]
  | succ i ih =>
    rw [List.take_succ_eq_append_getElem (by omega), supplies_append, Array.size_append,
      ih (by omega) fun j h before => whole j h (by omega)]
    simp only [supplies, Array.append_empty, whole i (by omega) (by omega), Nat.add_one_mul]

/-- The bytes of the last visit come behind the whole clusters of the others. -/
theorem size_supplies_of_last {visits : List Visit} {i : Nat} (length : visits.length = i + 1)
    (whole : ∀ j (h : j < visits.length), j < i → (v.supply visits[j]).size = v.clusterLength) :
    (v.supplies visits).size = i * v.clusterLength + (v.supply visits[i]).size := by
  have front := size_supplies_take (by omega) whole
  have parts : v.supplies visits = v.supplies (visits.take i) ++ v.supply visits[i] :=
    calc
      v.supplies visits = v.supplies (visits.take (i + 1)) := by
        rw [List.take_of_length_le (Nat.le_of_eq length)]
      _ = v.supplies (visits.take i) ++ v.supply visits[i] := by
        rw [List.take_succ_eq_append_getElem (by omega), supplies_append, supplies, supplies,
          Array.append_empty]
  rw [parts, Array.size_append, front]

/-- The bytes of a visit behind visits that each supply a whole cluster. -/
theorem getElem?_supplies {visits : List Visit} {i q : Nat} (inside : i < visits.length)
    (whole : ∀ j (h : j < visits.length), j < i → (v.supply visits[j]).size = v.clusterLength)
    (within : q < (v.supply visits[i]).size) :
    (v.supplies visits)[i * v.clusterLength + q]? = (v.supply visits[i])[q]? := by
  have start := size_supplies_take (Nat.le_of_lt inside) whole
  have parts : v.supplies visits =
      v.supplies (visits.take i) ++ (v.supply visits[i] ++ v.supplies (visits.drop (i + 1))) := by
    rw [← supplies, ← supplies_append, ← List.drop_eq_getElem_cons inside, List.take_append_drop]
  rw [parts, Array.getElem?_append_right (by omega), start, Nat.add_sub_cancel_left,
    Array.getElem?_append_left within]

/-- The visits of a trail whose clusters are all served supply what was demanded of them. -/
theorem Trail.size_supply {first size n i : Nat} {supplied : Array Visit}
    (trail : v.Trail first size n supplied)
    (served : ∀ i < n, v.refusal? (v.chain first i) (size - i * v.clusterLength) = none)
    (inside : i < supplied.toList.length) :
    (v.supply supplied.toList[i]).size =
      v.demand (v.chain first i) (size - i * v.clusterLength) := by
  have bound : i < supplied.size := by simpa using inside
  rw [Array.getElem_toList]
  exact (trail.visits i bound).size_supply (served i (by rw [← trail.size_eq]; exact bound))

/-- The bytes of visit `i` of a trail, if every visit in front of it supplied a whole cluster. -/
theorem Trail.getElem?_supplies {first size n i q : Nat} {supplied : Array Visit}
    (trail : v.Trail first size n supplied)
    (served : ∀ i < n, v.refusal? (v.chain first i) (size - i * v.clusterLength) = none)
    (whole : ∀ j < i, v.demand (v.chain first j) (size - j * v.clusterLength) = v.clusterLength)
    (inside : i < n) (within : q < v.demand (v.chain first i) (size - i * v.clusterLength)) :
    (v.supplies supplied.toList)[i * v.clusterLength + q]? =
      v.image[v.dataPosition (v.chain first i) + q]? := by
  have bound : i < supplied.toList.length := by
    rw [Array.length_toList, trail.size_eq]
    exact inside
  rw [Volume.getElem?_supplies bound]
  · rw [Array.getElem_toList]
    exact (trail.visits i (by simpa using bound)).getElem?_supply within
  · intro j h before
    rw [trail.size_supply served, whole j before]
  · rw [trail.size_supply served]
    exact within

theorem Reaches.served {first size k : Nat} (h : v.Reaches first size k) :
    ∀ i < k, v.refusal? (v.chain first i) (size - i * v.clusterLength) = none :=
  fun i before => (h.goesOn i before).served

/-- Every visit of a trail is a visit of the chain. -/
theorem Trail.exists_isVisit {first size n : Nat} {supplied : Array Visit} {visit : Visit}
    (trail : v.Trail first size n supplied)
    (served : ∀ i < n, v.refusal? (v.chain first i) (size - i * v.clusterLength) = none)
    (member : visit ∈ supplied) :
    ∃ k, v.IsVisit (v.chain first k) (size - k * v.clusterLength) visit ∧
      v.refusal? (v.chain first k) (size - k * v.clusterLength) = none := by
  obtain ⟨i, inside, rfl⟩ := Array.getElem_of_mem member
  exact ⟨i, trail.visits i inside, served i (by rw [← trail.size_eq]; exact inside)⟩

/-- A walk is supplied by visits of the chain that are served. -/
theorem mem_supplied {first : Nat} {size : UInt32} (small : first < 65536) {visit : Visit}
    (member : visit ∈ (v.walk first size).supplied) :
    ∃ k, v.IsVisit (v.chain first k) (size.toNat - k * v.clusterLength) visit ∧
      v.refusal? (v.chain first k) (size.toNat - k * v.clusterLength) = none := by
  rcases v.walk_cases small size with ⟨k, reason, broken⟩ | ⟨n, arrived⟩
  · exact broken.trail.exists_isVisit broken.fails.served member
  · exact arrived.trail.exists_isVisit arrived.completes.served member

/-- The visits that supply a walk supply as many bytes as they settled. -/
theorem size_supply_of_mem {first : Nat} {size : UInt32} (small : first < 65536) {visit : Visit}
    (member : visit ∈ (v.walk first size).supplied) :
    (v.supply visit).size = visit.length.toNat := by
  obtain ⟨k, isVisit, served⟩ := mem_supplied small member
  rw [isVisit.size_supply served, isVisit.length]

/-- A walk that breaks off has supplied a whole number of clusters. -/
theorem BreaksOff.size_gather {first size k : Nat} {reason : Abort} {walk : Walk}
    (h : v.BreaksOff first size k reason walk) : (v.gather walk).size = k * v.clusterLength := by
  have length : walk.supplied.toList.length = k := by
    rw [Array.length_toList, h.trail.size_eq]
  have all := size_supplies_take (v := v) (Nat.le_of_eq length.symm) fun j bound before => by
    rw [h.trail.size_supply h.fails.served, h.fails.demand_eq before]
  rw [gather_eq, ← all, List.take_of_length_le (Nat.le_of_eq length)]

/-- A walk that breaks off is supplied by whole clusters. -/
theorem BreaksOff.map_supplied {first size k : Nat} {reason : Abort} {walk : Walk}
    (h : v.BreaksOff first size k reason walk) :
    (walk.supplied.map fun visit => (v.supply visit).size) =
      Array.replicate k v.clusterLength := by
  apply Array.ext
  · rw [Array.size_map, Array.size_replicate, h.trail.size_eq]
  · intro i inside inside'
    rw [Array.size_map, ← Array.length_toList] at inside
    rw [Array.size_replicate] at inside'
    have supplied := h.trail.size_supply h.fails.served inside
    rw [h.fails.demand_eq inside', Array.getElem_toList] at supplied
    rw [Array.getElem_map, Array.getElem_replicate, supplied]

/-- A walk that breaks off has supplied the clusters of the chain in their order. -/
theorem BreaksOff.getElem?_gather {first size k p : Nat} {reason : Abort} {walk : Walk}
    (h : v.BreaksOff first size k reason walk) (before : p < k * v.clusterLength) :
    (v.gather walk)[p]? =
      v.image[v.dataPosition (v.chain first (p / v.clusterLength)) + p % v.clusterLength]? := by
  have inside : p / v.clusterLength < k := Nat.div_lt_of_lt_mul (by rwa [Nat.mul_comm])
  have found := h.trail.getElem?_supplies (q := p % v.clusterLength) h.fails.served
    (fun j earlier => h.fails.demand_eq (Nat.lt_trans earlier inside)) inside
    (by rw [h.fails.demand_eq inside]; exact Nat.mod_lt _ v.clusterLength_pos)
  rw [Nat.mul_comm, Nat.div_add_mod] at found
  rw [gather_eq, found]

/-- A walk that arrives has supplied all the bytes. -/
theorem Arrives.size_gather {first size n : Nat} {walk : Walk}
    (h : v.Arrives first size n walk) : (v.gather walk).size = size := by
  have length : walk.supplied.toList.length = n := by
    rw [Array.length_toList, h.trail.size_eq]
  rw [gather_eq]
  cases n with
  | zero =>
    rw [List.eq_nil_of_length_eq_zero length]
    rcases h.completes.done with covered | ⟨i, same, -⟩
    · rw [Nat.zero_mul] at covered
      exact (Nat.le_zero.mp covered).symm
    · omega
  | succ i =>
    have wanted := h.completes.wanted i (Nat.lt_succ_self i)
    rw [size_supplies_of_last length, h.trail.size_supply h.completes.served,
      h.completes.demand_last]
    · omega
    · intro j bound before
      rw [h.trail.size_supply h.completes.served, h.completes.demand_eq (by omega)]

/-- A walk that arrives has supplied the byte at `p` from visit `i`, which is the visit of its own
cluster or, past the end of the last one, the last. -/
theorem Arrives.getElem?_gather {first size i p : Nat} {walk : Walk} {n : Nat}
    (h : v.Arrives first size n walk) (inside : i < n) (low : i * v.clusterLength ≤ p)
    (high : p < (i + 1) * v.clusterLength ∨ i + 1 = n) (wanted : p < size) :
    (v.gather walk)[p]? =
      v.image[v.dataPosition (v.chain first i) + (p - i * v.clusterLength)]? := by
  have within : p - i * v.clusterLength <
      v.demand (v.chain first i) (size - i * v.clusterLength) := by
    by_cases last : i + 1 = n
    · subst last
      rw [h.completes.demand_last]
      omega
    · rw [h.completes.demand_eq (by omega)]
      rw [Nat.add_one_mul] at high
      omega
  have found := h.trail.getElem?_supplies h.completes.served
    (fun j earlier => h.completes.demand_eq (by omega)) inside within
  rw [gather_eq, ← found]
  congr 1
  omega

end BootDisk.Volume
