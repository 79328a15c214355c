import BootDisk.Proofs.Opening
import BootDisk.Proofs.Prefixes

/-!
# Files in one piece

The clusters of a volume lie one behind the other in the order of their numbers. So a chain that
only ever goes on to the next number is one stretch of the image, and a read along it is the copy of
that stretch (`read_contiguous`). A cluster that ends the chain supplies all the rest from behind
its own start, which is the same stretch once more: it does not matter where the chain is cut short
(`Contiguous.markedAt`).
-/

namespace BootDisk.Volume

open Loader

variable {v : Volume} {memory : Memory} {first size k c : Nat} {mark : UInt16}

/-- The bytes of a read from `first` on take cluster number `first + k`, and no cluster in front of
it ends the chain. -/
structure Takes (v : Volume) (first size k : Nat) : Prop where
  wanted : k * v.clusterLength < size
  linked : ∀ j < k, v.wordOf (first + j) < 0xFFF8

/-- The chain of a read goes through clusters that lie one behind the other, up to one that ends it.
Each has its table word in the image and is not marked bad. The last one that is wanted may be
linked to anything. -/
structure Contiguous (v : Volume) (first size : Nat) : Prop where
  word_inside : ∀ k, v.Takes first size k → v.wordPosition (first + k) + 2 ≤ v.image.size
  sound : ∀ k, v.Takes first size k → v.wordOf (first + k) ≠ 0xFFF7
  next : ∀ k, v.Takes first size (k + 1) → v.wordOf (first + k) = first + (k + 1)

theorem Takes.of_succ (h : v.Takes first size (k + 1)) : v.Takes first size k where
  wanted := Nat.lt_of_le_of_lt (Nat.mul_le_mul_right _ (Nat.le_succ k)) h.wanted
  linked j before := h.linked j (Nat.lt_succ_of_lt before)

/-- Clusters with consecutive numbers have consecutive bytes. -/
theorem dataPosition_add (v : Volume) (valid : 2 ≤ first) (k : Nat) :
    v.dataPosition (first + k) = v.dataPosition first + k * v.clusterLength := by
  rw [dataPosition, dataPosition, Nat.sub_add_comm valid, Nat.add_mul, Nat.add_assoc]

/-- The chain counts up through the clusters that the read takes. -/
theorem Contiguous.chain_eq (h : v.Contiguous first size) (takes : v.Takes first size k) :
    v.chain first k = first + k := by
  induction k with
  | zero => rfl
  | succ k ih => rw [chain, ih takes.of_succ, h.next k takes]

/-- A visit that a read reaches is of a cluster that the read takes. -/
theorem Contiguous.takes_of_goesOn (h : v.Contiguous first size) (wanted : k * v.clusterLength < size)
    (linked : ∀ i < k, v.wordOf (v.chain first i) < 0xFFF8) : v.Takes first size k := by
  induction k with
  | zero => exact ⟨wanted, fun j before => absurd before (Nat.not_lt_zero j)⟩
  | succ k ih =>
    have fewer : k * v.clusterLength ≤ (k + 1) * v.clusterLength :=
      Nat.mul_le_mul_right _ (Nat.le_succ k)
    have takes : v.Takes first size k :=
      ih (Nat.lt_of_le_of_lt fewer wanted) fun i before => linked i (Nat.lt_succ_of_lt before)
    refine ⟨wanted, fun j before => ?_⟩
    rcases Nat.lt_succ_iff_lt_or_eq.mp before with before | rfl
    · exact takes.linked j before
    · rw [← h.chain_eq takes]
      exact linked j before

theorem Reaches.takes (h : v.Reaches first size k) (contiguous : v.Contiguous first size) :
    v.Takes first size k :=
  contiguous.takes_of_goesOn h.wanted fun i before => (h.goesOn i before).linked

theorem Completes.takes {n : Nat} (h : v.Completes first size n) (contiguous : v.Contiguous first size)
    (before : k < n) : v.Takes first size k :=
  contiguous.takes_of_goesOn (h.wanted k before) fun i earlier => h.linked i (by omega)

/-- All that can be wrong with a cluster that the read takes is that its bytes are not all there. -/
theorem Contiguous.refusal?_eq (h : v.Contiguous first size) (valid : 2 ≤ first)
    (takes : v.Takes first size k) (wanted : Nat) :
    v.refusal? (v.chain first k) wanted =
      if v.image.size < v.dataPosition (first + k) + v.demand (first + k) wanted then
        some (.outOfBounds (v.dataPosition (first + k)) (v.demand (first + k) wanted))
      else
        none := by
  have hasWord := h.word_inside k takes
  rw [h.chain_eq takes, refusal?, if_neg (by omega), if_neg (by omega), if_neg (h.sound k takes)]

/-- A read that fails asks for a part of the stretch that crosses the end of the image. -/
theorem FailsAt.outOfBounds {reason : Abort} (h : v.FailsAt first size k reason)
    (contiguous : v.Contiguous first size) (valid : 2 ≤ first) :
    ∃ offset length, reason = .outOfBounds offset length ∧ v.dataPosition first ≤ offset ∧
      v.image.size < offset + length ∧ offset + length ≤ v.dataPosition first + size := by
  have takes := h.toReaches.takes contiguous
  have refused := h.refused
  have wanted := takes.wanted
  have most := demand_le (v := v) (first + k) (size - k * v.clusterLength)
  have place := v.dataPosition_add valid k
  rw [contiguous.refusal?_eq valid takes] at refused
  split at refused
  · rename_i crosses
    cases refused
    exact ⟨_, _, rfl, by omega, crosses, by omega⟩
  · cases refused

/-- A read is complete only if all of the stretch is inside the image: its last visit ends where the
stretch does. -/
theorem Completes.stretch_inside {n : Nat} (h : v.Completes first size n)
    (contiguous : v.Contiguous first size) (valid : 2 ≤ first) (some : 0 < size) :
    v.dataPosition first + size ≤ v.image.size := by
  cases n with
  | zero => rcases h.done with covered | ⟨i, same, -⟩ <;> omega
  | succ k =>
    have takes := h.takes contiguous (Nat.lt_succ_self k)
    have last := h.demand_last
    have served := (served_iff.mp (h.served k (Nat.lt_succ_self k))).2.2.2
    rw [last, contiguous.chain_eq takes, v.dataPosition_add valid] at served
    have := takes.wanted
    omega

/-- Where a byte of the read comes from, whichever visit supplies it. -/
theorem Completes.sourcePosition_eq {n p : Nat} (h : v.Completes first size n)
    (contiguous : v.Contiguous first size) (valid : 2 ≤ first) (wanted : p < size) :
    v.sourcePosition first size p = v.dataPosition first + p := by
  cases n with
  | zero => rcases h.done with covered | ⟨i, same, -⟩ <;> omega
  | succ i =>
    have takes : v.Takes first size (min (p / v.clusterLength) i) :=
      h.takes contiguous (Nat.lt_succ_of_le (Nat.min_le_right ..))
    have own : min (p / v.clusterLength) i * v.clusterLength ≤ p :=
      Nat.le_trans (Nat.mul_le_mul_right _ (Nat.min_le_left ..)) (Nat.div_mul_le_self p _)
    rw [sourcePosition, h.supplier_eq wanted, contiguous.chain_eq takes, v.dataPosition_add valid]
    omega

/-- The bytes of the clusters are the stretch. -/
theorem Arrives.gather_eq_extract {n : Nat} {walk : Walk} (h : v.Arrives first size n walk)
    (contiguous : v.Contiguous first size) (valid : 2 ≤ first) :
    v.gather walk = v.image.extract (v.dataPosition first) (v.dataPosition first + size) := by
  have all := h.size_gather
  apply Array.ext_getElem?
  intro p
  rw [Array.getElem?_extract]
  rcases Nat.lt_or_ge p size with wanted | behind
  · rw [h.getElem?_gather_eq wanted, h.completes.sourcePosition_eq contiguous valid wanted]
    split
    · rfl
    · exact Array.getElem?_eq_none (by omega)
  · rw [Array.getElem?_eq_none (by omega), if_neg (by omega)]

/-! Chains that are cut short. -/

/-- The volume with a mark in the table word of a cluster. -/
def markedAt (v : Volume) (c : Nat) (mark : UInt16) : Volume :=
  v.onImage (v.image.overwrite (v.wordPosition c) (LittleEndian.encode 2 mark.toNat).toArray)

theorem size_image_markedAt (v : Volume) (c : Nat) (mark : UInt16) :
    (v.markedAt c mark).image.size = v.image.size :=
  Bytes.size_overwrite ..

/-- The mark changes two bytes of the image. -/
theorem getElem?_image_markedAt {p : Nat}
    (apart : ¬ (v.wordPosition c ≤ p ∧ p < v.wordPosition c + 2)) :
    (v.markedAt c mark).image[p]? = v.image[p]? := by
  refine (Bytes.getElem?_overwrite ..).trans (if_neg ?_)
  rw [List.size_toArray, LittleEndian.length_encode]
  omega

theorem wordOf_markedAt_of_ne {c' : Nat} (other : c' ≠ c) :
    (v.markedAt c mark).wordOf c' = v.wordOf c' := by
  have position : ∀ c, (v.markedAt c mark).wordPosition c' = v.wordPosition c' := fun _ => rfl
  unfold wordOf
  simp only [position, Array.getD_eq_getD_getElem?]
  rw [getElem?_image_markedAt (by simp only [wordPosition]; omega),
    getElem?_image_markedAt (by simp only [wordPosition]; omega)]

theorem wordOf_markedAt (inside : v.wordPosition c + 2 ≤ v.image.size) :
    (v.markedAt c mark).wordOf c = mark.toNat := by
  have position : (v.markedAt c mark).wordPosition c = v.wordPosition c := rfl
  have byte : ∀ q < 2, (v.markedAt c mark).image[v.wordPosition c + q]? =
      (LittleEndian.encode 2 mark.toNat)[q]? := by
    intro q within
    refine (Bytes.getElem?_overwrite ..).trans ?_
    rw [if_pos (by rw [List.size_toArray, LittleEndian.length_encode]; omega),
      Nat.add_sub_cancel_left, List.getElem?_toArray]
  unfold wordOf
  rw [position, Array.getD_eq_getD_getElem?, Array.getD_eq_getD_getElem?, byte 1 (by decide)]
  rw [← Nat.add_zero (v.wordPosition c), byte 0 (by decide)]
  have fits : mark.toNat < LittleEndian.capacity 2 := mark.toNat_lt
  exact LittleEndian.decode_encode fits

/-- Up to the marked cluster nothing has changed, and behind it the read takes no more clusters. -/
theorem Contiguous.takes_of_markedAt (h : v.Contiguous first size) (ends : 0xFFF8 ≤ mark.toNat)
    (takes : (v.markedAt c mark).Takes first size k) :
    v.Takes first size k ∧ ∀ j < k, first + j ≠ c := by
  induction k with
  | zero =>
    exact ⟨⟨takes.wanted, fun j before => absurd before (Nat.not_lt_zero j)⟩,
      fun j before => absurd before (Nat.not_lt_zero j)⟩
  | succ k ih =>
    obtain ⟨front, unmarked⟩ := ih takes.of_succ
    have linked := takes.linked k (Nat.lt_succ_self k)
    have other : first + k ≠ c := by
      rintro rfl
      rw [wordOf_markedAt (h.word_inside k front)] at linked
      omega
    rw [wordOf_markedAt_of_ne other] at linked
    refine ⟨⟨takes.wanted, ?_⟩, ?_⟩
    · intro j before
      rcases Nat.lt_succ_iff_lt_or_eq.mp before with before | rfl
      · exact front.linked j before
      · exact linked
    · intro j before
      rcases Nat.lt_succ_iff_lt_or_eq.mp before with before | rfl
      · exact unmarked j before
      · exact other

/-- A file in one piece is in one piece wherever its chain is cut short. -/
theorem Contiguous.markedAt (h : v.Contiguous first size) (ends : 0xFFF8 ≤ mark.toNat) (c : Nat) :
    (v.markedAt c mark).Contiguous first size where
  word_inside k takes := by
    rw [size_image_markedAt]
    exact h.word_inside k (h.takes_of_markedAt ends takes).1
  sound k takes := by
    obtain ⟨front, -⟩ := h.takes_of_markedAt ends takes
    by_cases here : first + k = c
    · subst here
      rw [wordOf_markedAt (h.word_inside k front)]
      omega
    · rw [wordOf_markedAt_of_ne here]
      exact h.sound k front
  next k takes := by
    obtain ⟨front, unmarked⟩ := h.takes_of_markedAt ends takes
    rw [wordOf_markedAt_of_ne (unmarked k (Nat.lt_succ_self k))]
    exact h.next k front

/-! Reads. -/

section Reads

variable {first size : UInt32} {w left : Workspace} {n : UInt32}

/-- A read of a file in one piece succeeds exactly if all of the stretch is inside the image. -/
theorem Contiguous.read_succeeds_iff (h : v.Contiguous first.toNat size.toNat) (memory : Memory)
    (valid : 2 ≤ first.toNat ∧ first.toNat ≤ 65535) (some : 0 < size.toNat)
    (fits : size.toNat ≤ w.destination.size) :
    (∃ n left, v.read memory w.destination.size first size w = .ok n left) ↔
      v.dataPosition first.toNat + size.toNat ≤ v.image.size := by
  rcases v.failsAt_or_completes (Nat.lt_succ_of_le valid.2) size with
    ⟨k, reason, fails⟩ | ⟨visits, completes⟩
  · obtain ⟨left, failed, -⟩ := read_of_failsAt memory valid fits fails
    obtain ⟨offset, length, -, low, crosses, high⟩ := fails.outOfBounds h valid.1
    refine ⟨?_, fun inside => ?_⟩
    · rintro ⟨n, left', succeeded⟩
      rw [failed] at succeeded
      cases succeeded
    · omega
  · exact ⟨fun _ => completes.stretch_inside h valid.1 some,
      fun _ => ⟨size, _, read_of_completes valid fits completes⟩⟩

/-- A read of a file in one piece that succeeds leaves the stretch of the image, and behind it what
was there before. -/
theorem Contiguous.eq_of_read (h : v.Contiguous first.toNat size.toNat) (valid : 2 ≤ first.toNat)
    (succeeded : v.read memory w.destination.size first size w = .ok n left) :
    n = size ∧ left.destination =
      v.image.extract (v.dataPosition first.toNat) (v.dataPosition first.toNat + size.toNat) ++
        w.destination.extract size.toNat := by
  obtain ⟨small, fits, sound, rfl, rfl⟩ := eq_of_read_eq_ok (Nat.le_refl _) succeeded
  obtain ⟨visits, arrived⟩ := arrives_of_failure?_eq_none small sound
  have all := arrived.size_gather
  rw [deliver, Bytes.overwrite_zero (by omega), all, arrived.gather_eq_extract h valid]
  exact ⟨rfl, rfl⟩

/-- Bytes of two stretches of one length, each with the same bytes behind it. -/
theorem getElem?_extract_append_congr {b b' rest : Bytes} {start stop p : Nat}
    (length : b'.size = b.size) (same : b'[start + p]? = b[start + p]?) :
    (b'.extract start stop ++ rest)[p]? = (b.extract start stop ++ rest)[p]? := by
  rw [Array.getElem?_append, Array.getElem?_append, Array.size_extract, Array.size_extract, length,
    Array.getElem?_extract, Array.getElem?_extract, length, same]

/-- **A file in one piece is one stretch of the image.** Let the clusters that a read takes lie one
behind the other, up to the one that ends the chain, wherever that is. The read succeeds exactly if
the stretch of its bytes, from the start of the first cluster on, is inside the image, and then it
leaves that stretch in the destination. Otherwise it fails for a part of the stretch that crosses
the end of the image. An end mark in any of the table words changes neither whether the read
succeeds nor what it leaves, but for the two bytes of the word itself if they are among those that
are read. -/
theorem read_contiguous (v : Volume) (memory : Memory) (first size : UInt32) (w : Workspace)
    (valid : 2 ≤ first.toNat ∧ first.toNat ≤ 65535) (some : 0 < size.toNat)
    (fits : size.toNat ≤ w.destination.size) (contiguous : v.Contiguous first.toNat size.toNat) :
    ((∃ n left, v.read memory w.destination.size first size w = .ok n left) ↔
      v.dataPosition first.toNat + size.toNat ≤ v.image.size) ∧
    (∀ n left, v.read memory w.destination.size first size w = .ok n left →
      n = size ∧ left.destination =
        v.image.extract (v.dataPosition first.toNat) (v.dataPosition first.toNat + size.toNat) ++
          w.destination.extract size.toNat) ∧
    (v.image.size < v.dataPosition first.toNat + size.toNat →
      ∃ offset length left,
        v.read memory w.destination.size first size w =
          .error (.failure (.outOfBounds offset length)) left ∧
        v.dataPosition first.toNat ≤ offset ∧ v.image.size < offset + length ∧
        offset + length ≤ v.dataPosition first.toNat + size.toNat) ∧
    ∀ (c : Nat) (mark : UInt16), 0xFFF8 ≤ mark.toNat →
      ((∃ n left', (v.markedAt c mark).read memory w.destination.size first size w = .ok n left') ↔
        ∃ n left, v.read memory w.destination.size first size w = .ok n left) ∧
      ∀ n n' left left', v.read memory w.destination.size first size w = .ok n left →
        (v.markedAt c mark).read memory w.destination.size first size w = .ok n' left' →
          ∀ p, ¬ (v.wordPosition c ≤ v.dataPosition first.toNat + p ∧
              v.dataPosition first.toNat + p < v.wordPosition c + 2) →
            left'.destination[p]? = left.destination[p]? := by
  have succeeds := contiguous.read_succeeds_iff memory valid some fits
  refine ⟨succeeds, fun n left => contiguous.eq_of_read valid.1, ?_, ?_⟩
  · intro outside
    rcases v.failsAt_or_completes (Nat.lt_succ_of_le valid.2) size with
      ⟨k, reason, fails⟩ | ⟨visits, completes⟩
    · obtain ⟨left, failed, -⟩ := read_of_failsAt memory valid fits fails
      obtain ⟨offset, length, rfl, low, crosses, high⟩ := fails.outOfBounds contiguous valid.1
      exact ⟨offset, length, left, failed, low, crosses, high⟩
    · have := completes.stretch_inside contiguous valid.1 some
      omega
  · intro c mark ends
    have cut := contiguous.markedAt ends c
    have length := v.size_image_markedAt c mark
    constructor
    · rw [succeeds, cut.read_succeeds_iff memory valid some fits, length]
      exact Iff.rfl
    · intro n n' left left' succeeded succeeded' p apart
      rw [(contiguous.eq_of_read valid.1 succeeded).2, (cut.eq_of_read valid.1 succeeded').2]
      exact getElem?_extract_append_congr length (getElem?_image_markedAt apart)

end Reads

/-- The sample volume with the chain 2 → 3 → 4, which ends there. -/
def sampleInOnePiece : Volume :=
  { sample with image := sample.image.overwrite 30 #[3, 0, 4, 0] }

/-- Reads of any size along that chain are of one piece. -/
theorem contiguous_sampleInOnePiece (size : Nat) : sampleInOnePiece.Contiguous 2 size := by
  have takes : ∀ k, sampleInOnePiece.Takes 2 size k → k < 3 := by
    intro k h
    apply Nat.lt_of_not_le
    intro ended
    exact absurd (h.linked 2 (by omega)) (by decide +kernel)
  constructor
  · intro k h
    exact (by decide +kernel : ∀ k < 3, sampleInOnePiece.wordPosition (2 + k) + 2 ≤
      sampleInOnePiece.image.size) k (takes k h)
  · intro k h
    exact (by decide +kernel : ∀ k < 3, sampleInOnePiece.wordOf (2 + k) ≠ 0xFFF7) k (takes k h)
  · intro k h
    exact (by decide +kernel : ∀ k < 2, sampleInOnePiece.wordOf (2 + k) = 2 + (k + 1)) k
      (Nat.lt_of_succ_lt_succ (takes (k + 1) h))

/-- Seven bytes of that chain, the last one from behind its end, are one stretch, and they are the
same with an end mark in the word of the first cluster. The ninth byte would be behind the image. -/
theorem read_contiguous_sampleInOnePiece :
    sampleInOnePiece.Contiguous 2 7 ∧
    (∃ left, sampleInOnePiece.read .strict 8 2 7 (.start (Array.replicate 8 9)) = .ok 7 left ∧
      left.destination = #[21, 22, 31, 32, 41, 42, 51, 9]) ∧
    (∃ n left', (sampleInOnePiece.markedAt 2 0xFFFF).read .strict 8 2 7
        (.start (Array.replicate 8 9)) = .ok n left' ∧
      ∀ p : Nat, left'.destination[p]? = (#[21, 22, 31, 32, 41, 42, 51, 9] : Bytes)[p]?) ∧
    ∃ offset length left, sampleInOnePiece.read .strict 9 2 9 (.start (Array.replicate 9 0)) =
      .error (.failure (.outOfBounds offset length)) left := by
  have onePiece := contiguous_sampleInOnePiece 7
  obtain ⟨succeeds, leaves, -, cut⟩ := read_contiguous sampleInOnePiece .strict 2 7
    (.start (Array.replicate 8 9)) (by decide) (by decide) (by decide) onePiece
  obtain ⟨-, -, fails, -⟩ := read_contiguous sampleInOnePiece .strict 2 9
    (.start (Array.replicate 9 0)) (by decide) (by decide) (by decide)
    (contiguous_sampleInOnePiece 9)
  obtain ⟨n, left, succeeded⟩ := succeeds.mpr (by decide +kernel)
  obtain ⟨rfl, bytes⟩ := leaves n left succeeded
  obtain ⟨same, alike⟩ := cut 2 0xFFFF (by decide)
  obtain ⟨n', left', succeeded'⟩ := same.mpr ⟨_, _, succeeded⟩
  have read : left.destination = #[21, 22, 31, 32, 41, 42, 51, 9] :=
    bytes.trans (by decide +kernel)
  -- The word of cluster 2 is at 30, and the bytes of the file are from 70 on.
  have apart : sampleInOnePiece.wordPosition 2 = 30 ∧ sampleInOnePiece.dataPosition 2 = 70 := by
    decide +kernel
  obtain ⟨offset, length, left₂, failed, -⟩ := fails (by decide +kernel)
  refine ⟨onePiece, ⟨left, succeeded, read⟩, ⟨n', left', succeeded', fun p => ?_⟩, offset, length,
    left₂, failed⟩
  rw [← read]
  apply alike _ _ _ _ succeeded succeeded'
  rw [apart.1, show sampleInOnePiece.dataPosition (UInt32.toNat 2) = 70 from apart.2]
  omega

end BootDisk.Volume
