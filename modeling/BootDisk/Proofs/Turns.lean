import BootDisk.Proofs.Bare.Read
import BootDisk.Proofs.Operations

/-!
# How many turns a read takes

A read goes along its chain turn by turn, and nothing keeps it from coming back to a cluster that it
has visited: the table may link a cluster to itself or to one in front of it. What ends a read is
that it counts. Opening a volume refuses clusters without bytes, so every turn that goes on reads at
least one byte. `takeTurns` cuts a read off after a given number of turns; one for every cluster
that the bytes would fill is always enough (`read_ends_in_turns`).
-/

namespace BootDisk

open Loader

/-- What a turn of a read comes to. -/
inductive Turn where
  /-- The read goes on from the cluster with this number, with so many bytes read. -/
  | goesOn (index done : Nat)
  /-- The read is over, with so many bytes read. -/
  | stops (done : Nat)
  deriving DecidableEq

/-- What a turn comes to whose visit supplies its bytes. -/
def Visit.turn (visit : Visit) (done : Nat) : Turn :=
  match visit.link with
  | .next next => .goesOn next.toNat (done + visit.length.toNat)
  | _ => .stops (done + visit.length.toNat)

namespace Loader

variable {ε α β : Type} {f : α → β} {step step' : Loader ε α} {w w' : Workspace}

theorem map_congr (same : step w = step' w') : (f <$> step) w = (f <$> step') w' := by
  simp only [Functor.map, EStateM.map, same]

theorem map_ok {a : α} (h : step w = .ok a w') : (f <$> step) w = .ok (f a) w' := by
  simp only [Functor.map, EStateM.map, h]

theorem map_error {stop : Stop ε} (h : step w = .error stop w') :
    (f <$> step) w = .error stop w' := by
  simp only [Functor.map, EStateM.map, h]

end Loader

namespace Volume

/-- One turn of a read of `size` bytes of which `done` are read: visits the cluster with a given
number and copies what it is to supply. -/
def turn (v : Volume) (memory : Memory) (size : UInt32) (index done : Nat) : Loader Abort Turn := do
  let visit ← ofExcept (v.visit index (UInt64.ofNat (size.toNat - done)))
  log (.clusterVisited visit.cluster visit.offset visit.link)
  ofExcept (v.checkSupply visit)
  copy memory size.toNat done visit.length.toNat (v.supply visit)
  return visit.turn done

/-- Goes on with a read for no more than a given number of turns. Gives the number of bytes read in
all, or nothing if the read is not over by then. -/
def takeTurns (v : Volume) (memory : Memory) (size : UInt32) :
    (turns index done : Nat) → Loader Abort (Option Nat)
  | 0, _, done => return if size.toNat ≤ done then some done else none
  | turns + 1, index, done => do
    if size.toNat ≤ done then
      return some done
    match ← v.turn memory size index done with
    | .goesOn next done => takeTurns v memory size turns next done
    | .stops done => return some done

/-- Reads `size` bytes of the chain that starts at `first` in no more than a given number of
turns. -/
def readInTurns (v : Volume) (memory : Memory) (turns room : Nat) (first size : UInt32) :
    Loader Abort (Option UInt32) := do
  let _ ← ofExcept (Cluster.ofIndex first.toNat)
  if room < size.toNat then
    fail (.destinationTooSmall size.toNat room)
  let done? ← v.takeTurns memory size turns first.toNat 0
  return done?.map UInt32.ofNat

variable {v : Volume} {memory : Memory} {size : UInt32} {index done : Nat} {w : Workspace}

/-! Single turns. -/

theorem turn_of_lost {reason : Abort}
    (lost : v.visit index (UInt64.ofNat (size.toNat - done)) = .error reason) :
    v.turn memory size index done w = .error (.failure reason) w := by
  rw [turn, lost]
  rfl

theorem turn_of_refused {visit : Visit} {reason : Abort}
    (visited : v.visit index (UInt64.ofNat (size.toNat - done)) = .ok visit)
    (refused : v.checkSupply visit = .error reason) :
    v.turn memory size index done w =
      .error (.failure reason)
        (w.logged (.clusterVisited visit.cluster visit.offset visit.link)) := by
  rw [turn, visited]
  refine (bind_ok (ofExcept_ok visit w)).trans ?_
  refine (bind_ok (log_eq _ w)).trans ?_
  rw [refused]
  rfl

/-- The workspace once the bytes of a visit are behind `done` others. -/
def received (v : Volume) (visit : Visit) (done : Nat) (w : Workspace) : Workspace :=
  { w.logged (.clusterVisited visit.cluster visit.offset visit.link) with
    destination := w.destination.overwrite done (v.supply visit)
    copies := w.copies.push (v.supply visit).size }

theorem size_destination_received (v : Volume) (visit : Visit) (done : Nat) (w : Workspace) :
    (v.received visit done w).destination.size = w.destination.size :=
  Bytes.size_overwrite ..

/-- What is still to be read, as a word. -/
theorem toNat_rest (size : UInt32) (done : Nat) :
    (UInt64.ofNat (size.toNat - done)).toNat = size.toNat - done := by
  have := size.toNat_lt
  exact UInt64.toNat_ofNat_of_lt' (by rw [UInt64.size]; omega)

/-- The bytes that are read and those still to be read are all of them. -/
theorem add_rest (more : done < size.toNat) :
    done + (UInt64.ofNat (size.toNat - done)).toNat = size.toNat := by
  rw [toNat_rest]
  omega

/-- No visit supplies more than is still to be read. -/
theorem length_le {visit : Visit}
    (visited : v.visit index (UInt64.ofNat (size.toNat - done)) = .ok visit) :
    visit.length.toNat ≤ size.toNat - done := by
  have most := v.supplyLength_le visit.link (UInt64.ofNat (size.toNat - done))
  rwa [toNat_rest, ← v.length_of_visit visited] at most

theorem copy_of_supplied {visit : Visit} (more : done < size.toNat)
    (fits : size.toNat ≤ w.destination.size)
    (visited : v.visit index (UInt64.ofNat (size.toNat - done)) = .ok visit)
    (passes : v.checkSupply visit = .ok ()) :
    (copy memory size.toNat done visit.length.toNat (v.supply visit) : Loader Abort Unit)
        (w.logged (.clusterVisited visit.cluster visit.offset visit.link)) =
      .ok () (v.received visit done w) := by
  have short := length_le visited
  exact copy_eq_ok (Bare.size_supply_of_checkSupply passes) (by omega) fits

theorem turn_of_supplied {visit : Visit} (more : done < size.toNat)
    (fits : size.toNat ≤ w.destination.size)
    (visited : v.visit index (UInt64.ofNat (size.toNat - done)) = .ok visit)
    (passes : v.checkSupply visit = .ok ()) :
    v.turn memory size index done w = .ok (visit.turn done) (v.received visit done w) := by
  rw [turn, visited]
  refine (bind_ok (ofExcept_ok visit w)).trans ?_
  refine (bind_ok (log_eq _ w)).trans ?_
  rw [passes]
  refine (bind_ok (ofExcept_ok () _)).trans ?_
  exact bind_ok (copy_of_supplied more fits visited passes)

theorem turn_of_next {visit : Visit} {next : UInt16} (link : visit.link = .next next)
    (visited : v.visit index (UInt64.ofNat (size.toNat - done)) = .ok visit) :
    visit.turn done =
      .goesOn next.toNat (done + min v.clusterLength (size.toNat - done)) := by
  have least : visit.length.toNat = min v.clusterLength (size.toNat - done) := by
    rw [v.length_of_visit visited, link]
    exact (v.toNat_min_clusterSize _).trans (congrArg (min _) (toNat_rest size done))
  rw [Visit.turn, link, ← least]

theorem turn_of_last {visit : Visit} (link : visit.link = .last) (more : done < size.toNat)
    (visited : v.visit index (UInt64.ofNat (size.toNat - done)) = .ok visit) :
    visit.turn done = .stops size.toNat := by
  have all : visit.length.toNat = size.toNat - done := by
    rw [v.length_of_visit visited, link]
    exact toNat_rest size done
  rw [Visit.turn, link, all]
  exact congrArg Turn.stops (by omega)

/-- A cluster marked bad supplies nothing. -/
theorem link_ne_bad {visit : Visit} (passes : v.checkSupply visit = .ok ()) : visit.link ≠ .bad := by
  intro bad
  rw [checkSupply, if_pos bad] at passes
  cases passes

/-- A turn fails, or ends the read with all its bytes, or goes on with a cluster more of them, or
with all if that is less. -/
theorem turn_cases (v : Volume) (memory : Memory) (index : Nat) (more : done < size.toNat)
    (fits : size.toNat ≤ w.destination.size) :
    (∃ reason w', v.turn memory size index done w = .error (.failure reason) w') ∨
    (∃ w', v.turn memory size index done w = .ok (.stops size.toNat) w') ∨
    ∃ next w', v.turn memory size index done w =
      .ok (.goesOn next (done + min v.clusterLength (size.toNat - done))) w' := by
  cases visited : v.visit index (UInt64.ofNat (size.toNat - done)) with
  | error reason => exact .inl ⟨reason, w, turn_of_lost visited⟩
  | ok visit =>
    cases passes : v.checkSupply visit with
    | error reason => exact .inl ⟨reason, _, turn_of_refused visited passes⟩
    | ok =>
      have ended : v.turn memory size index done w = _ :=
        turn_of_supplied more fits visited passes
      cases link : visit.link with
      | next next =>
        rw [turn_of_next link visited] at ended
        exact .inr (.inr ⟨next.toNat, _, ended⟩)
      | last =>
        rw [turn_of_last link more visited] at ended
        exact .inr (.inl ⟨_, ended⟩)
      | bad => exact absurd link (link_ne_bad passes)

/-! Turn after turn. -/

/-- A read goes on from the workspace that a turn leaves. -/
theorem readOn_of_supplied {visit : Visit} (more : done < size.toNat)
    (fits : size.toNat ≤ w.destination.size)
    (visited : v.visit index (UInt64.ofNat (size.toNat - done)) = .ok visit)
    (passes : v.checkSupply visit = .ok ()) :
    Bare.readOn v size index done w =
      match visit.turn done with
      | .goesOn next further => Bare.readOn v size next further (v.received visit done w)
      | .stops all => .ok all (v.received visit done w) := by
  rw [Bare.readOn_of_visit more (add_rest more) visited]
  refine (bind_ok (log_eq _ w)).trans ?_
  rw [passes]
  refine (bind_ok (ofExcept_ok () _)).trans ?_
  refine (bind_ok (copy_of_supplied more fits visited passes)).trans ?_
  unfold Visit.turn
  cases visit.link <;> rfl

/-- Turns enough for the bytes that are still to be read take a read to its end. The induction is on
the turns: a turn that goes on reads a whole cluster, or all that is left, so that one turn less is
enough for what is left then. -/
theorem takeTurns_eq (v : Volume) (memory : Memory) (size : UInt32) {turns index done : Nat}
    {w : Workspace} (enough : size.toNat - done ≤ turns * v.clusterLength)
    (fits : size.toNat ≤ w.destination.size) :
    v.takeTurns memory size turns index done w = (some <$> Bare.readOn v size index done) w := by
  induction turns generalizing index done w with
  | zero =>
    rw [Nat.zero_mul] at enough
    rw [takeTurns, if_pos (by omega), Bare.readOn, dif_neg (by omega)]
    rfl
  | succ turns ih =>
    by_cases all : size.toNat ≤ done
    · rw [takeTurns, if_pos all, Bare.readOn, dif_neg (by omega)]
      rfl
    · have more : done < size.toNat := Nat.lt_of_not_le all
      rw [takeTurns, if_neg all]
      cases visited : v.visit index (UInt64.ofNat (size.toNat - done)) with
      | error reason =>
        rw [Bare.readOn_of_lost more visited]
        exact bind_error (turn_of_lost visited)
      | ok visit =>
        cases passes : v.checkSupply visit with
        | error reason =>
          rw [Bare.readOn_of_visit more (add_rest more) visited, passes]
          exact bind_error (turn_of_refused visited passes)
        | ok =>
          refine (bind_ok (turn_of_supplied more fits visited passes)).trans ?_
          have goesOn := readOn_of_supplied more fits visited passes
          cases link : visit.link with
          | next next =>
            rw [turn_of_next link visited] at goesOn ⊢
            refine Eq.trans ?_ (map_congr goesOn).symm
            apply ih
            · rw [Nat.add_one_mul] at enough
              omega
            · rwa [size_destination_received]
          | last =>
            rw [turn_of_last link more visited] at goesOn ⊢
            exact (map_ok goesOn).symm
          | bad => exact absurd link (link_ne_bad passes)

/-- A read is over within one turn for every cluster that its bytes would fill. -/
theorem readInTurns_eq (v : Volume) (memory : Memory) (first size : UInt32) {turns room : Nat}
    {w : Workspace} (enough : (size.toNat + v.clusterLength - 1) / v.clusterLength ≤ turns)
    (inside : room ≤ w.destination.size) :
    v.readInTurns memory turns room first size w =
      (some <$> v.read memory room first size) w := by
  have covered : size.toNat - 0 ≤ turns * v.clusterLength :=
    Nat.le_of_not_lt fun short => absurd (v.lt_visits_iff.mpr short) (Nat.not_lt.mpr enough)
  have isRead : v.read memory room first size w = Bare.read v room first size w :=
    (read_eq_of_memory memory .strict first size inside).trans (Bare.read_eq v first size w inside).symm
  refine Eq.trans ?_ (map_congr isRead).symm
  -- The checks in front of the first turn are the same ones.
  unfold readInTurns Bare.read
  cases Cluster.ofIndex first.toNat with
  | error reason => rfl
  | ok cluster =>
    rcases Nat.lt_or_ge room size.toNat with noRoom | fits
    · simp only [if_pos noRoom]
      rfl
    · simp only [if_neg (Nat.not_lt.mpr fits)]
      have ended : v.takeTurns memory size turns first.toNat 0 w = _ :=
        takeTurns_eq v memory size covered (Nat.le_trans fits inside)
      have whole : (Loader.ofExcept (.ok cluster) : Loader Abort Cluster) w = .ok cluster w := rfl
      refine (bind_ok whole).trans (Eq.trans ?_ (map_congr (bind_ok whole)).symm)
      cases went : Bare.readOn v size first.toNat 0 w with
      | ok n w' =>
        have finished : (Bare.readOn v size first.toNat 0 >>= fun position =>
          return UInt32.ofNat position) w = .ok (UInt32.ofNat n) w' := bind_ok went
        exact (bind_ok (ended.trans (map_ok went))).trans (map_ok finished).symm
      | error stop w' =>
        exact (bind_error (ended.trans (map_error went))).trans (map_error (bind_error went)).symm

/-! Chains that go on. -/

/-- A cluster that can be read whole, with a table word that links it onward. -/
structure LinksOn (v : Volume) (c : Nat) : Prop where
  valid : 2 ≤ c
  word_inside : v.wordPosition c + 2 ≤ v.image.size
  linked : v.wordOf c < 0xFFF7
  cluster_inside : v.dataPosition c + v.clusterLength ≤ v.image.size

theorem LinksOn.goesOn {c : Nat} (h : v.LinksOn c) (wanted : Nat) : v.GoesOn c wanted := by
  have linked : v.wordOf c < 0xFFF8 := Nat.lt_succ_of_lt h.linked
  have inside := h.cluster_inside
  refine ⟨served_iff.mpr ⟨h.valid, h.word_inside, Nat.ne_of_lt h.linked, ?_⟩, linked⟩
  rw [demand_of_linked linked]
  omega

/-- A read along clusters that all link onward gets all its bytes. -/
theorem completes_of_linksOn {first size : Nat}
    (links : ∀ k, k * v.clusterLength < size → v.LinksOn (v.chain first k)) :
    v.Completes first size ((size + v.clusterLength - 1) / v.clusterLength) := by
  apply Passed.completes
  · intro k before
    have wanted := v.lt_visits_iff.mp before
    exact ⟨wanted, (links k wanted).goesOn _⟩
  · exact Nat.le_of_not_lt fun short => Nat.lt_irrefl _ (v.lt_visits_iff.mpr short)

/-- A chain that comes back to one of its clusters stays among the clusters it has visited. -/
theorem exists_lt_chain_eq {first m n : Nat} (some : 0 < n)
    (back : v.chain first (m + n) = v.chain first m) (k : Nat) :
    ∃ j < m + n, v.chain first k = v.chain first j := by
  induction k with
  | zero => exact ⟨0, by omega, rfl⟩
  | succ k ih =>
    obtain ⟨j, before, same⟩ := ih
    have next : v.chain first (k + 1) = v.chain first (j + 1) := congrArg v.wordOf same
    rcases Nat.lt_or_eq_of_le (Nat.succ_le_of_lt before) with inner | last
    · exact ⟨j + 1, inner, next⟩
    · exact ⟨m, by omega, next.trans ((congrArg (v.chain first) last).trans back)⟩

/-- How reads of a volume end, whatever its table holds. -/
structure EndsInTurns (v : Volume) (memory : Memory) : Prop where
  clusterLength_eq :
    v.clusterLength = v.parameters.bytesPerSector.toNat * v.parameters.sectorsPerCluster.toNat
  /-- A turn fails, or ends the read, or goes on with more bytes read. -/
  turn : ∀ (size : UInt32) (index done : Nat) (w : Workspace),
    done < size.toNat → size.toNat ≤ w.destination.size →
      0 < min v.clusterLength (size.toNat - done) ∧
      ((∃ reason w', v.turn memory size index done w = .error (.failure reason) w') ∨
        (∃ w', v.turn memory size index done w = .ok (.stops size.toNat) w') ∨
        ∃ next w', v.turn memory size index done w =
          .ok (.goesOn next (done + min v.clusterLength (size.toNat - done))) w')
  /-- A read is over within one turn for every cluster that its bytes would fill. -/
  read : ∀ (first size : UInt32) (w : Workspace) (turns : Nat),
    (size.toNat + v.clusterLength - 1) / v.clusterLength ≤ turns →
      v.readInTurns memory turns w.destination.size first size w =
        (some <$> v.read memory w.destination.size first size) w
  /-- A chain that goes on through all the turns gives all the bytes. -/
  onward : ∀ (first size : UInt32) (w : Workspace), 2 ≤ first.toNat ∧ first.toNat ≤ 65535 →
    size.toNat ≤ w.destination.size →
      (∀ k, k * v.clusterLength < size.toNat → v.LinksOn (v.chain first.toNat k)) →
        (v.read memory w.destination.size first size).outcome w = .ok size
  /-- So does a chain that comes back to one of its clusters. -/
  cyclic : ∀ (first size : UInt32) (w : Workspace), 2 ≤ first.toNat ∧ first.toNat ≤ 65535 →
    size.toNat ≤ w.destination.size → ∀ m n, 0 < n →
      v.chain first.toNat (m + n) = v.chain first.toNat m →
        (∀ k < m + n, v.LinksOn (v.chain first.toNat k)) →
          (v.read memory w.destination.size first size).outcome w = .ok size

/-- An image whose header gives clusters no bytes holds no volume. -/
theorem ofImage_of_parameters {image : Bytes} {settings : Settings} {parameters : BootParameters}
    (decoded : BootParameters.ofImage image settings.signatureOffset settings.signature =
      .ok parameters)
    (empty : parameters.bytesPerSector.toNat * parameters.sectorsPerCluster.toNat = 0) :
    ofImage image settings = .error .emptyClusters := by
  have none : parameters.layout.clusterSize = 0 :=
    UInt64.toNat_inj.mp (parameters.toNat_clusterSize.trans empty)
  simp only [ofImage, decoded, bind, Except.bind, dif_pos none]

theorem outcome_read_of_linksOn {first : UInt32} (valid : 2 ≤ first.toNat ∧ first.toNat ≤ 65535)
    (fits : size.toNat ≤ w.destination.size)
    (links : ∀ k, k * v.clusterLength < size.toNat → v.LinksOn (v.chain first.toNat k)) :
    (v.read memory w.destination.size first size).outcome w = .ok size :=
  outcome_of_ok (read_of_completes valid fits (completes_of_linksOn links))

/-- **Every read ends.** Opening refuses an image whose clusters have no bytes. So on every volume
that is opened, a turn of a read that does not fail or end it reads a whole cluster or all that is
left, and the read is over within as many turns as its bytes fill clusters, whatever the table links
to what. A chain that goes on from one sound cluster to the next for that long gives all the bytes,
and one that comes back to where it was does, for any size. -/
theorem read_ends_in_turns (memory : Memory) (image : Bytes) (settings : Settings) :
    (∀ parameters, BootParameters.ofImage image settings.signatureOffset settings.signature =
        .ok parameters → parameters.bytesPerSector.toNat * parameters.sectorsPerCluster.toNat = 0 →
      ofImage image settings = .error .emptyClusters) ∧
    ∀ v, ofImage image settings = .ok v → 0 < v.clusterLength ∧ v.EndsInTurns memory := by
  refine ⟨fun parameters decoded empty => ofImage_of_parameters decoded empty, ?_⟩
  intro v _
  refine ⟨v.clusterLength_pos, ?_⟩
  constructor
  · exact v.parameters.toNat_clusterSize
  · intro size index done w more fits
    have some := v.clusterLength_pos
    exact ⟨by omega, v.turn_cases memory index more fits⟩
  · intro first size w turns enough
    exact v.readInTurns_eq memory first size enough (Nat.le_refl _)
  · intro first size w valid fits links
    exact outcome_read_of_linksOn valid fits links
  · intro first size w valid fits m n some back links
    refine outcome_read_of_linksOn valid fits fun k _ => ?_
    obtain ⟨j, before, same⟩ := exists_lt_chain_eq some back k
    rw [same]
    exact links j before

/-- The sample volume with its chain bent back: 2 and 3 link to each other. -/
def sampleLoop : Volume :=
  { sample with image := sample.image.overwrite 30 #[3, 0, 2, 0] }

/-- Both clusters of the loop link onward. -/
theorem linksOn_sampleLoop {k : Nat} (before : k < 2) :
    sampleLoop.LinksOn (sampleLoop.chain 2 k) := by
  match k, before with
  | 0, _ => exact ⟨by decide +kernel, by decide +kernel, by decide +kernel, by decide +kernel⟩
  | 1, _ => exact ⟨by decide +kernel, by decide +kernel, by decide +kernel, by decide +kernel⟩

/-- Four bytes of two clusters that link to each other take two turns, and seven take four. With a
header that gives its clusters no sectors, the image is refused. -/
theorem read_ends_in_turns_sampleLoop :
    ofImage sampleLoop.image sampleSettings = .ok sampleLoop ∧
    ofImage (sampleLoop.image.overwrite 13 #[0]) sampleSettings = .error .emptyClusters ∧
    0 < min sampleLoop.clusterLength 3 ∧
    (sampleLoop.read .strict 4 2 4).outcome (.start (Array.replicate 4 0)) = .ok 4 ∧
    (sampleLoop.read .strict 7 2 7).outcome (.start (Array.replicate 7 0)) = .ok 7 ∧
    ∃ w', sampleLoop.readInTurns .strict 4 7 2 7 (.start (Array.replicate 7 0)) =
      .ok (some 7) w' := by
  have opened : ofImage sampleLoop.image sampleSettings = .ok sampleLoop := by cbv
  have header : BootParameters.ofImage (sampleLoop.image.overwrite 13 #[0])
      sampleSettings.signatureOffset sampleSettings.signature = .ok ⟨2, 0, 13, 1, 1, 0, 0, 6⟩ := by
    cbv
  have refused := (read_ends_in_turns .strict _ sampleSettings).1 _ header rfl
  obtain ⟨-, ends⟩ := (read_ends_in_turns .strict _ sampleSettings).2 sampleLoop opened
  obtain ⟨more, -⟩ := ends.turn 7 2 4 (.start (Array.replicate 7 0)) (by decide) (by decide)
  have onward := ends.onward 2 4 (.start (Array.replicate 4 0)) (by decide) (by decide)
    fun k wanted => linksOn_sampleLoop (by
      have length : sampleLoop.clusterLength = 2 := rfl
      rw [length] at wanted
      exact Nat.lt_of_mul_lt_mul_right wanted)
  have cyclic := ends.cyclic 2 7 (.start (Array.replicate 7 0)) (by decide) (by decide) 0 2
    (by decide) (by decide +kernel) fun k before => linksOn_sampleLoop (by omega)
  have counted := ends.read 2 7 (.start (Array.replicate 7 0)) 4 (by decide)
  exact ⟨opened, refused, more, onward, cyclic, _, counted.trans (map_ok (eq_ok_of_outcome cyclic))⟩

end Volume

end BootDisk
