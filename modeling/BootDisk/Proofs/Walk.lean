import BootDisk.Proofs.Chain
import BootDisk.Volume.Walk
import Mathlib.Algebra.Group.Nat.Defs

/-!
# Walks follow chains

A walk is decided in words and by looking at the image piece by piece. `visit_cases` says that one
of its visits finds exactly what `refusal?` and `demand` say of the cluster, and `walk_cases` that a
whole walk makes the visits of the chain in their order until it fails where the chain says so or
has all its bytes. The walk of a read is unique, so `failure?_walk_iff` is an equivalence.
-/

namespace BootDisk

/-- A table word by its number. -/
theorem Link.ofWord_ofNat {n : Nat} (small : n < 65536) :
    Link.ofWord (UInt16.ofNat n) =
      if n = 0xFFF7 then .bad else if 0xFFF8 ≤ n then .last else .next (UInt16.ofNat n) := by
  have number : (UInt16.ofNat n).toNat = n := UInt16.toNat_ofNat_of_lt' small
  have bad : UInt16.ofNat n = badMark ↔ n = 0xFFF7 := by
    rw [← UInt16.toNat_inj, number]
    rfl
  have ended : endMark ≤ UInt16.ofNat n ↔ 0xFFF8 ≤ n := by
    rw [UInt16.le_iff_toNat_le, number]
    rfl
  simp only [ofWord, bad, ended]

namespace Volume

variable {v : Volume}

theorem wordPosition_lt (v : Volume) {c : Nat} (small : c < 65536) : v.wordPosition c < 2 ^ 33 := by
  have : v.layout.tableOffset.toNat < 2 ^ 32 := v.parameters.reservedSize_lt
  simp only [wordPosition]
  omega

theorem dataPosition_lt (v : Volume) {c : Nat} (small : c < 65536) :
    v.dataPosition c < 2 ^ 42 := by
  have start : v.layout.dataOffset.toNat < 2 ^ 41 := v.parameters.dataOffset_lt
  have product : (c - 2) * v.clusterLength < 2 ^ 16 * 2 ^ 24 :=
    BootParameters.mul_lt_of_lt (by omega) v.parameters.clusterSize_lt
  simp only [dataPosition]
  omega

theorem toNat_linkOffset_eq (v : Volume) (c : Cluster) :
    (v.linkOffset c).toNat = v.wordPosition c.index.toNat :=
  v.toNat_linkOffset c

theorem toNat_clusterOffset_eq (v : Volume) (c : Cluster) :
    (v.clusterOffset c).toNat = v.dataPosition c.index.toNat :=
  v.toNat_clusterOffset c

/-- A stretch whose end fits a word is inside exactly if its end is inside the image. -/
theorem contains_eq {offset length : UInt64} (fits : offset.toNat + length.toNat < 2 ^ 64) :
    v.contains offset length = decide (offset.toNat + length.toNat ≤ v.image.size) := by
  rw [Bool.eq_iff_iff, v.contains_iff, decide_eq_true_eq]
  constructor
  · intro h
    exact h.2
  · intro h
    exact ⟨fits, h⟩

/-- The word of a cluster is its number unless it crosses the end of the image. -/
theorem tableWord_eq (v : Volume) (c : Cluster) :
    v.tableWord c =
      if v.image.size < v.wordPosition c.index.toNat + 2 then
        .error (.outOfBounds (v.wordPosition c.index.toNat) 2)
      else
        .ok (UInt16.ofNat (v.wordOf c.index.toNat)) := by
  have position := v.toNat_linkOffset_eq c
  have bound := v.wordPosition_lt c.index.toNat_lt
  have length : (2 : UInt64).toNat = 2 := rfl
  have inside := contains_eq (v := v)
    (show (v.linkOffset c).toNat + (2 : UInt64).toNat < 2 ^ 64 by omega)
  unfold tableWord slice?
  by_cases outside : v.image.size < v.wordPosition c.index.toNat + 2
  · rw [inside, decide_eq_false (by omega), if_pos outside, position]
    rfl
  · rw [inside, decide_eq_true (by omega), if_neg outside, if_pos rfl]
    obtain ⟨word, found⟩ := Option.isSome_iff_exists.mp
      (Bytes.window?_isSome_iff.mpr
        (show (v.linkOffset c).toNat + (2 : UInt64).toNat ≤ v.image.size by omega))
    have low := Bytes.getElem_of_window? found (show 0 < (2 : UInt64).toNat by decide)
    have high := Bytes.getElem_of_window? found (show 1 < (2 : UInt64).toNat by decide)
    rw [position] at low high
    simp only [found, wordOf, Array.getD_eq_getD_getElem?]
    rw [show v.image[v.wordPosition c.index.toNat]? = _ from low, high]
    rfl

/-- A visit of the cluster `c` while `wanted` bytes are still wanted. -/
structure IsVisit (v : Volume) (c wanted : Nat) (visit : Visit) : Prop where
  index : visit.cluster.index.toNat = c
  offset : visit.offset.toNat = v.dataPosition c
  link : visit.link = Link.ofWord (UInt16.ofNat (v.wordOf c))
  length : visit.length.toNat = v.demand c wanted
  word_inside : v.wordPosition c + 2 ≤ v.image.size

theorem toNat_min_clusterSize (v : Volume) (wanted : UInt64) :
    (min wanted v.layout.clusterSize).toNat = min v.clusterLength wanted.toNat := by
  show (if wanted ≤ v.layout.clusterSize then wanted else v.layout.clusterSize).toNat = _
  simp only [UInt64.le_iff_toNat_le, clusterLength]
  split <;> omega

theorem toNat_supplyLength {c : Nat} {link : Link} {wanted : UInt64}
    (h : link = Link.ofWord (UInt16.ofNat (v.wordOf c))) :
    (v.supplyLength link wanted).toNat = v.demand c wanted.toNat := by
  rw [Link.ofWord_ofNat (v.wordOf_lt c)] at h
  by_cases ended : 0xFFF8 ≤ v.wordOf c
  · rw [if_neg (by omega), if_pos ended] at h
    rw [h, demand_of_ended ended]
    rfl
  · rw [demand_of_linked (by omega), ← v.toNat_min_clusterSize]
    by_cases bad : v.wordOf c = 0xFFF7
    · rw [h, if_pos bad]
      rfl
    · rw [h, if_neg bad, if_neg ended]
      rfl

theorem IsVisit.valid {c wanted : Nat} {visit : Visit} (h : v.IsVisit c wanted visit) : 2 ≤ c := by
  rw [← h.index]
  exact visit.cluster.two_le_toNat_index

theorem IsVisit.small {c wanted : Nat} {visit : Visit} (h : v.IsVisit c wanted visit) :
    c < 65536 := by
  rw [← h.index]
  exact visit.cluster.index.toNat_lt

/-- The check of a visited cluster finds what is left of the reasons to refuse the visit. -/
theorem IsVisit.checkSupply_eq {c wanted : Nat} {visit : Visit} (h : v.IsVisit c wanted visit)
    (fits : wanted < 2 ^ 32) :
    v.checkSupply visit =
      match v.refusal? c wanted with
      | none => .ok ()
      | some reason => .error reason := by
  have position := v.dataPosition_lt h.small
  have demanded := demand_le (v := v) c wanted
  have inside : v.contains visit.offset visit.length =
      decide (v.dataPosition c + v.demand c wanted ≤ v.image.size) := by
    rw [contains_eq (by rw [h.offset, h.length]; omega), h.offset, h.length]
  have exists_ := h.valid
  have hasWord := h.word_inside
  rw [checkSupply, inside, h.link, Link.ofWord_ofNat (v.wordOf_lt c), h.index, h.offset, h.length]
  simp only [refusal?, if_neg (show ¬ c < 2 by omega),
    if_neg (show ¬ v.image.size < v.wordPosition c + 2 by omega)]
  by_cases bad : v.wordOf c = 0xFFF7
  · rw [if_pos bad, if_pos rfl, if_pos bad]
  · have notBad :
        (if 0xFFF8 ≤ v.wordOf c then Link.last else .next (UInt16.ofNat (v.wordOf c))) ≠ .bad := by
      split <;> exact nofun
    rw [if_neg bad, if_neg notBad, if_neg bad]
    by_cases crosses : v.image.size < v.dataPosition c + v.demand c wanted
    · rw [if_pos crosses, decide_eq_false (by omega)]
      rfl
    · rw [if_neg crosses, decide_eq_true (by omega)]
      rfl

theorem IsVisit.checkSupply_eq_ok_iff {c wanted : Nat} {visit : Visit}
    (h : v.IsVisit c wanted visit) (fits : wanted < 2 ^ 32) :
    v.checkSupply visit = .ok () ↔ v.refusal? c wanted = none := by
  rw [h.checkSupply_eq fits]
  cases v.refusal? c wanted <;> simp

theorem IsVisit.checkSupply_eq_error_iff {c wanted : Nat} {visit : Visit} {reason : Abort}
    (h : v.IsVisit c wanted visit) (fits : wanted < 2 ^ 32) :
    v.checkSupply visit = .error reason ↔ v.refusal? c wanted = some reason := by
  rw [h.checkSupply_eq fits]
  cases v.refusal? c wanted <;> simp

theorem visit_of_word {c : Nat} {wanted : UInt64} {cluster : Cluster} {word : UInt16}
    (isCluster : Cluster.ofIndex c = .ok cluster) (hasWord : v.tableWord cluster = .ok word) :
    v.visit c wanted =
      .ok ⟨cluster, v.clusterOffset cluster, Link.ofWord word,
        v.supplyLength (Link.ofWord word) wanted⟩ := by
  simp only [visit, isCluster, hasWord, bind, Except.bind, pure, Except.pure]

theorem visit_of_no_word {c : Nat} {wanted : UInt64} {cluster : Cluster} {reason : Abort}
    (isCluster : Cluster.ofIndex c = .ok cluster) (noWord : v.tableWord cluster = .error reason) :
    v.visit c wanted = .error reason := by
  simp only [visit, isCluster, noWord, bind, Except.bind]

theorem visit_of_no_cluster {c : Nat} {wanted : UInt64} {reason : Abort}
    (noCluster : Cluster.ofIndex c = .error reason) : v.visit c wanted = .error reason := by
  simp only [visit, noCluster, bind, Except.bind]

/-- A visit is lost if its cluster does not exist or has no word in the image. Any other visit is
the chain's. -/
theorem visit_cases (v : Volume) {c : Nat} (wanted : UInt64) (small : c < 65536) :
    (∃ reason, v.visit c wanted = .error reason ∧ v.refusal? c wanted.toNat = some reason ∧
      (c < 2 ∨ v.image.size < v.wordPosition c + 2)) ∨
    (∃ visit, v.visit c wanted = .ok visit ∧ v.IsVisit c wanted.toNat visit) := by
  cases isCluster : Cluster.ofIndex c with
  | error reason =>
    obtain ⟨range, rfl⟩ := Cluster.ofIndex_eq_error_iff.mp isCluster
    have low : c < 2 := by
      simp only [Cluster.firstIndex, Cluster.lastIndex] at range
      omega
    exact .inl ⟨_, visit_of_no_cluster isCluster, if_pos low, .inl low⟩
  | ok cluster =>
    have index := Cluster.toNat_index_of_ofIndex isCluster
    have word := v.tableWord_eq cluster
    rw [index] at word
    by_cases outside : v.image.size < v.wordPosition c + 2
    · rw [if_pos outside] at word
      have valid := cluster.two_le_toNat_index
      exact .inl ⟨_, visit_of_no_word isCluster word,
        by rw [refusal?, if_neg (by omega), if_pos outside], .inr outside⟩
    · rw [if_neg outside] at word
      exact .inr ⟨_, visit_of_word isCluster word, index,
        by rw [v.toNat_clusterOffset_eq, index], rfl, toNat_supplyLength rfl, by omega⟩

theorem refusal?_of_visit {c : Nat} {wanted : UInt64} {reason : Abort} (small : c < 65536)
    (lost : v.visit c wanted = .error reason) :
    v.refusal? c wanted.toNat = some reason ∧ (c < 2 ∨ v.image.size < v.wordPosition c + 2) := by
  rcases v.visit_cases wanted small with ⟨reason', lost', refused⟩ | ⟨visit, visited, -⟩
  · rw [lost] at lost'
    cases lost'
    exact refused
  · rw [lost] at visited
    cases visited

theorem isVisit_of_visit {c : Nat} {wanted : UInt64} {visit : Visit} (small : c < 65536)
    (visited : v.visit c wanted = .ok visit) : v.IsVisit c wanted.toNat visit := by
  rcases v.visit_cases wanted small with ⟨reason, lost, -⟩ | ⟨visit', visited', found⟩
  · rw [visited] at lost
    cases lost
  · rw [visited] at visited'
    cases visited'
    exact found

/-! The turns of a walk. -/

theorem walkFrom_done (v : Volume) (index : Nat) (supplied : Array Visit) :
    v.walkFrom index 0 supplied = ⟨supplied, .complete⟩ := by
  rw [walkFrom, dif_pos rfl]

theorem walkFrom_of_lost {index : Nat} {wanted : UInt64} {supplied : Array Visit} {reason : Abort}
    (some : wanted ≠ 0) (lost : v.visit index wanted = .error reason) :
    v.walkFrom index wanted supplied = ⟨supplied, .lost reason⟩ := by
  rw [walkFrom, dif_neg some]
  split
  · rename_i reason' lost'
    rw [lost] at lost'
    cases lost'
    rfl
  · rename_i visit visited
    rw [lost] at visited
    cases visited

/-- A turn whose visit was made. -/
theorem walkFrom_of_visit {index : Nat} {wanted : UInt64} {supplied : Array Visit} {visit : Visit}
    (some : wanted ≠ 0) (visited : v.visit index wanted = .ok visit) :
    v.walkFrom index wanted supplied =
      match v.checkSupply visit with
      | .error reason => ⟨supplied, .refused visit reason⟩
      | .ok () =>
        match visit.link with
        | .next next => v.walkFrom next.toNat (wanted - visit.length) (supplied.push visit)
        | _ => ⟨supplied.push visit, .complete⟩ := by
  rw [walkFrom, dif_neg some]
  split
  · rename_i reason lost
    rw [visited] at lost
    cases lost
  · rename_i visit' visited'
    rw [visited] at visited'
    cases visited'
    rfl

/-- The first `k` visits of a read, each as the chain has it. -/
structure Trail (v : Volume) (first size k : Nat) (supplied : Array Visit) : Prop where
  size_eq : supplied.size = k
  visits : ∀ i (h : i < supplied.size),
    v.IsVisit (v.chain first i) (size - i * v.clusterLength) supplied[i]

theorem Trail.empty (v : Volume) (first size : Nat) : v.Trail first size 0 #[] where
  size_eq := rfl
  visits i h := absurd h (Nat.not_lt_zero i)

theorem Trail.push {first size k : Nat} {supplied : Array Visit} {visit : Visit}
    (trail : v.Trail first size k supplied)
    (next : v.IsVisit (v.chain first k) (size - k * v.clusterLength) visit) :
    v.Trail first size (k + 1) (supplied.push visit) where
  size_eq := by rw [Array.size_push, trail.size_eq]
  visits i h := by
    rw [Array.size_push] at h
    by_cases before : i < supplied.size
    · rw [Array.getElem_push_lt before]
      exact trail.visits i before
    · have last : i = supplied.size := by omega
      subst last
      rw [Array.getElem_push_eq, trail.size_eq]
      exact next

/-- A walk that fails where the chain says so, behind the visits in front of that. -/
structure BreaksOff (v : Volume) (first size k : Nat) (reason : Abort) (walk : Walk) : Prop where
  fails : v.FailsAt first size k reason
  trail : v.Trail first size k walk.supplied
  ending :
    (walk.ending = .lost reason ∧
      (v.chain first k < 2 ∨ v.image.size < v.wordPosition (v.chain first k) + 2)) ∨
    ∃ visit, walk.ending = .refused visit reason ∧
      v.IsVisit (v.chain first k) (size - k * v.clusterLength) visit

theorem lt_of_asked {size k : Nat} {wanted : UInt64} (some : wanted ≠ 0)
    (asked : wanted.toNat = size - k * v.clusterLength) : k * v.clusterLength < size := by
  have : wanted.toNat ≠ 0 := fun none => some (UInt64.toNat_inj.mp none)
  omega

/-- A walk that supplies all bytes in `n` visits. -/
structure Arrives (v : Volume) (first size n : Nat) (walk : Walk) : Prop where
  completes : v.Completes first size n
  trail : v.Trail first size n walk.supplied
  ending : walk.ending = .complete

/-- A link leads on to the cluster that the table word names. -/
theorem IsVisit.linked {c wanted : Nat} {visit : Visit} {next : UInt16}
    (h : v.IsVisit c wanted visit) (link : visit.link = .next next) :
    v.wordOf c < 0xFFF8 ∧ next.toNat = v.wordOf c := by
  obtain ⟨below, rfl⟩ := Link.ofWord_eq_next_iff.mp (h.link.symm.trans link)
  have number : (UInt16.ofNat (v.wordOf c)).toNat = v.wordOf c :=
    UInt16.toNat_ofNat_of_lt' (v.wordOf_lt c)
  have below' : v.wordOf c < 0xFFF7 := by
    rw [← number]
    exact UInt16.lt_iff_toNat_lt.mp below
  exact ⟨by omega, number⟩

/-- A served visit whose link does not lead on is at the end of the chain. -/
theorem IsVisit.ended {c wanted : Nat} {visit : Visit} (h : v.IsVisit c wanted visit)
    (served : v.refusal? c wanted = none) (link : ∀ next, visit.link ≠ .next next) :
    0xFFF8 ≤ v.wordOf c := by
  have notBad := (served_iff.mp served).2.2.1
  rw [h.link, Link.ofWord_ofNat (v.wordOf_lt c), if_neg notBad] at link
  refine Nat.not_lt.mp fun below => link (UInt16.ofNat (v.wordOf c)) ?_
  rw [if_neg (by omega)]

/-- **The walk follows the chain.** Behind visits that all went on, it breaks off where the chain
fails, or it arrives. The induction is on the turns of the walk, and `Trail` and `Passed` are what
each turn keeps. -/
theorem walkFrom_cases {first size k index : Nat} {wanted : UInt64} {supplied : Array Visit}
    (small : first < 65536) (fits : size < 2 ^ 32) (here : index = v.chain first k)
    (asked : wanted.toNat = size - k * v.clusterLength) (trail : v.Trail first size k supplied)
    (passed : v.Passed first size k) :
    (∃ j reason, v.BreaksOff first size j reason (v.walkFrom index wanted supplied)) ∨
      ∃ n, v.Arrives first size n (v.walkFrom index wanted supplied) := by
  fun_induction v.walkFrom index wanted supplied generalizing k with
  | case1 index supplied =>
    have covered : size ≤ k * v.clusterLength := Nat.le_of_sub_eq_zero asked.symm
    exact .inr ⟨k, passed.completes covered, trail, rfl⟩
  | case2 index wanted supplied some reason lost =>
    subst here
    have reached := passed.reaches (lt_of_asked some asked)
    obtain ⟨refused, nowhere⟩ := refusal?_of_visit (v.chain_lt small k) lost
    rw [asked] at refused
    exact .inl ⟨k, reason, ⟨reached, refused⟩, trail, .inl ⟨rfl, nowhere⟩⟩
  | case3 index wanted supplied some visit visited reason failed =>
    subst here
    have reached := passed.reaches (lt_of_asked some asked)
    have found := isVisit_of_visit (v.chain_lt small k) visited
    rw [asked] at found
    have refused := (found.checkSupply_eq_error_iff (by omega)).mp failed
    exact .inl ⟨k, reason, ⟨reached, refused⟩, trail, .inr ⟨visit, rfl, found⟩⟩
  | case4 index wanted supplied some visit visited passes next link fewer ih =>
    subst here
    have unread := lt_of_asked some asked
    have taken := v.toNat_wanted_sub visited
    have found := isVisit_of_visit (v.chain_lt small k) visited
    rw [asked] at found
    obtain ⟨linked, number⟩ := found.linked link
    have goesOn : v.GoesOn (v.chain first k) (size - k * v.clusterLength) :=
      ⟨(found.checkSupply_eq_ok_iff (by omega)).mp passes, linked⟩
    have length := found.length
    rw [demand_of_linked linked] at length
    exact ih (k := k + 1) number (by rw [Nat.add_one_mul]; omega) (trail.push found)
      (passed.succ unread goesOn)
  | case5 index wanted supplied some visit visited passes link =>
    subst here
    have found := isVisit_of_visit (v.chain_lt small k) visited
    rw [asked] at found
    have served := (found.checkSupply_eq_ok_iff (by omega)).mp passes
    exact .inr ⟨k + 1, passed.completes_of_ended (lt_of_asked some asked) served
      (found.ended served link), trail.push found, rfl⟩

/-- A walk breaks off where its chain fails, or it arrives. -/
theorem walk_cases (v : Volume) {first : Nat} (small : first < 65536) (size : UInt32) :
    (∃ k reason, v.BreaksOff first size.toNat k reason (v.walk first size)) ∨
      ∃ n, v.Arrives first size.toNat n (v.walk first size) :=
  walkFrom_cases small size.toNat_lt rfl (by rw [UInt32.toNat_toUInt64]; omega)
    (Trail.empty v first size.toNat) (Passed.zero v first size.toNat)

theorem BreaksOff.failure?_eq {first size k : Nat} {reason : Abort} {walk : Walk}
    (h : v.BreaksOff first size k reason walk) : walk.failure? = some reason := by
  rcases h.ending with ⟨ending, -⟩ | ⟨visit, ending, -⟩ <;> rw [Walk.failure?, ending]

theorem Arrives.failure?_eq {first size n : Nat} {walk : Walk}
    (h : v.Arrives first size n walk) : walk.failure? = none := by
  rw [Walk.failure?, h.ending]

/-- Where the chain fails, the walk breaks off. -/
theorem FailsAt.breaksOff {first k : Nat} {size : UInt32} {reason : Abort} (small : first < 65536)
    (h : v.FailsAt first size.toNat k reason) :
    v.BreaksOff first size.toNat k reason (v.walk first size) := by
  rcases v.walk_cases small size with ⟨k', reason', broken⟩ | ⟨n, arrived⟩
  · obtain ⟨rfl, rfl⟩ := h.unique broken.fails
    exact broken
  · exact absurd h arrived.completes.not_failsAt

/-- Where the chain serves all the bytes, the walk arrives. -/
theorem Completes.arrives {first n : Nat} {size : UInt32} (small : first < 65536)
    (h : v.Completes first size.toNat n) :
    ∃ n, v.Arrives first size.toNat n (v.walk first size) := by
  rcases v.walk_cases small size with ⟨k, reason, broken⟩ | arrived
  · exact absurd broken.fails h.not_failsAt
  · exact arrived

/-- A walk fails exactly for the reasons its chain gives. -/
theorem failure?_walk_iff {first : Nat} {size : UInt32} {reason : Abort} (small : first < 65536) :
    (v.walk first size).failure? = some reason ↔ ∃ k, v.FailsAt first size.toNat k reason := by
  constructor
  · intro failed
    rcases v.walk_cases small size with ⟨k, reason', broken⟩ | ⟨n, arrived⟩
    · rw [broken.failure?_eq] at failed
      cases failed
      exact ⟨k, broken.fails⟩
    · rw [arrived.failure?_eq] at failed
      cases failed
  · rintro ⟨k, fails⟩
    exact (fails.breaksOff small).failure?_eq

/-- A walk that does not fail arrives. -/
theorem arrives_of_failure?_eq_none {first : Nat} {size : UInt32} (small : first < 65536)
    (sound : (v.walk first size).failure? = none) :
    ∃ n, v.Arrives first size.toNat n (v.walk first size) := by
  rcases v.walk_cases small size with ⟨k, reason, broken⟩ | arrived
  · rw [broken.failure?_eq] at sound
    cases sound
  · exact arrived

end Volume

end BootDisk
