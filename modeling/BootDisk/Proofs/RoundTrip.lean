import BootDisk.Proofs.Opening
import BootDisk.Proofs.ReadOutcome
import BootDisk.Proofs.Store

/-!
# Storing and loading

A file that a volume admits can be stored in it and loaded again. The image with the file in it
opens as before, its first table chains the clusters of the file in their order, and the first entry
that carries the name is the one of the file. So the walk of the load arrives, and what it gathers
are the bytes that were stored.
-/

namespace BootDisk.Volume

open Loader

variable {v : Volume} {settings : Settings} {r : Nat} {file : StoredFile}

/-- The volume with a file stored in it. -/
def stored (v : Volume) (r : Nat) (file : StoredFile) : Volume :=
  v.onImage (v.store r file)

/-- Stretches in front of the tables are not written to. -/
theorem Admits.sameStretch (h : v.Admits settings r file) {offset length : Nat}
    (front : offset + length ≤ v.layout.tableOffset.toNat) :
    v.image.SameStretch (v.store r file) offset length := by
  have root := v.rootPosition_eq
  have inside := h.root_inside
  refine ⟨by omega, by rw [size_store]; omega, ?_⟩
  intro i _ before
  exact h.getElem?_store_of_lt (by omega)

/-- The image with the file in it opens again. -/
theorem Admits.ofImage_store (h : v.Admits settings r file)
    (opened : ofImage v.image settings = .ok v) :
    ofImage (v.store r file) settings = .ok (v.stored r file) := by
  rw [ofImage_of_sameStretch (h.sameStretch h.signature_fits)
    (h.sameStretch (by rw [Nat.zero_add]; exact h.header_fits)), opened]
  rfl

/-! The directory and the chain of the volume with the file in it. -/

theorem Admits.record_stored (h : v.Admits settings r file) :
    (v.stored r file).record r = file.entry := by
  refine Eq.trans ?_ (DirectoryEntry.recordAt_encode file.entry)
  apply DirectoryEntry.recordAt_congr
  intro q within
  rw [Nat.zero_add]
  exact h.getElem?_store_record within

theorem Admits.record_stored_of_ne (h : v.Admits settings r file) {j : Nat}
    (inside : j < v.recordCount) (other : j ≠ r) : (v.stored r file).record j = v.record j :=
  DirectoryEntry.recordAt_congr fun _ within => h.getElem?_store_other inside other within

/-- The record of the file is an entry. -/
theorem Admits.isEntry_entry (h : v.Admits settings r file) : file.entry.isEntry := by
  obtain ⟨used, kept⟩ := h.in_use
  simp [DirectoryEntry.isEntry, DirectoryEntry.isInUse, DirectoryEntry.isNameFragment,
    StoredFile.entry, used, kept]

/-- A search for the name finds the file. -/
theorem Admits.exists_directory_stored (h : v.Admits settings r file) :
    ∃ entries, (v.stored r file).directory = .ok entries ∧
      DirectoryEntry.named? file.name entries = some file.entry := by
  have inside : (v.stored r file).rootPosition +
      DirectoryEntry.recordLength * (v.stored r file).recordCount ≤ (v.store r file).size := by
    rw [size_store]
    exact h.root_inside
  have placed := h.record_stored
  refine ⟨_, directory_eq_ok inside, ?_⟩
  rw [named?_records (v := v.stored r file) h.has_record, placed]
  · rw [placed]
    exact h.isEntry_entry
  · rw [placed]
    rfl
  · intro i before
    rw [h.record_stored_of_ne (Nat.lt_trans before h.has_record) (Nat.ne_of_lt before)]
    exact h.first i before

/-- The table word of each cluster of the file. -/
theorem Admits.wordOf_stored (h : v.Admits settings r file) {i : Nat}
    (inside : i < file.clusters.length) :
    (v.stored r file).wordOf (file.clusterAt i) = file.wordAt i := by
  have fits : file.wordAt i < LittleEndian.capacity 2 := by
    unfold StoredFile.wordAt
    split
    · exact (file.clusters.getD (i + 1) 0).toNat_lt
    · decide
  have low := h.getElem?_store_word inside (q := 0) (by decide)
  have high := h.getElem?_store_word inside (q := 1) (by decide)
  refine Eq.trans ?_ (LittleEndian.decode_encode fits)
  show LittleEndian.decode [(v.store r file).getD (v.wordPosition (file.clusterAt i)) 0,
    (v.store r file).getD (v.wordPosition (file.clusterAt i) + 1) 0] = _
  rw [Nat.add_zero] at low
  rw [Array.getD_eq_getD_getElem?, Array.getD_eq_getD_getElem?, low, high]
  rfl

theorem Admits.wordAt_of_lt (h : v.Admits settings r file) {i : Nat}
    (inner : i + 1 < file.clusters.length) :
    file.wordAt i = file.clusterAt (i + 1) ∧ file.wordAt i ≤ 0xFFF6 := by
  have next := (h.cluster inner).2.1
  rw [StoredFile.wordAt, if_pos inner]
  exact ⟨rfl, next⟩

/-- The chain from the first cluster of the file runs through all of them in order. -/
theorem Admits.chain_stored (h : v.Admits settings r file) {i : Nat}
    (inside : i < file.clusters.length) :
    (v.stored r file).chain (file.clusterAt 0) i = file.clusterAt i := by
  induction i with
  | zero => rfl
  | succ i ih =>
    rw [chain, ih (by omega), h.wordOf_stored (by omega), (h.wordAt_of_lt inside).1]

/-- A file has a cluster for every visit that its bytes take. -/
theorem Admits.lt_length (h : v.Admits settings r file) {i : Nat}
    (wanted : i * v.clusterLength < file.data.size) : i < file.clusters.length :=
  Nat.lt_of_mul_lt_mul_right (Nat.lt_of_lt_of_le wanted h.data_fits)

/-- Every visit that the bytes of the file take is served. -/
theorem Admits.served (h : v.Admits settings r file) {i : Nat}
    (wanted : i * v.clusterLength < file.data.size) :
    (v.stored r file).refusal? (file.clusterAt i) (file.data.size - i * v.clusterLength) = none := by
  have inside := h.lt_length wanted
  have root := v.rootPosition_eq
  have behind := h.root_inside
  have tables : v.tableLength ≤ v.tableCount * v.tableLength :=
    Nat.le_mul_of_pos_left _ h.has_table
  obtain ⟨valid, -, word, bytes⟩ := h.cluster inside
  have linkInside : v.wordPosition (file.clusterAt i) + 2 ≤ v.image.size := by
    rw [wordPosition]
    omega
  have demanded : (v.stored r file).wordOf (file.clusterAt i) ≠ 0xFFF7 ∧
      (v.stored r file).demand (file.clusterAt i) (file.data.size - i * v.clusterLength) ≤
        v.clusterLength := by
    rw [demand, h.wordOf_stored inside]
    by_cases inner : i + 1 < file.clusters.length
    · obtain ⟨-, small⟩ := h.wordAt_of_lt inner
      rw [if_neg (by omega)]
      exact ⟨by omega, Nat.min_le_left ..⟩
    · -- The last cluster ends the chain, and no more than its own length is left for it.
      have last : file.clusters.length = i + 1 := by omega
      have fits := h.data_fits
      rw [last, Nat.add_one_mul] at fits
      have ended : file.wordAt i = 0xFFFF := if_neg inner
      rw [ended, if_pos (by decide)]
      exact ⟨by decide, by omega⟩
  refine served_iff.mpr ⟨valid, ?_, demanded.1, ?_⟩
  · show v.wordPosition (file.clusterAt i) + 2 ≤ (v.store r file).size
    rwa [size_store]
  · show v.dataPosition (file.clusterAt i) + _ ≤ (v.store r file).size
    rw [size_store]
    exact Nat.le_trans (Nat.add_le_add_left demanded.2 _) bytes

/-- Reading the file completes, with a visit for each cluster that its bytes take. -/
theorem Admits.completes (h : v.Admits settings r file) :
    (v.stored r file).Completes (file.clusterAt 0) file.data.size
      ((file.data.size + v.clusterLength - 1) / v.clusterLength) where
  wanted i before := v.lt_visits_iff.mp before
  served i before := by
    have wanted := v.lt_visits_iff.mp before
    rw [h.chain_stored (h.lt_length wanted)]
    exact h.served wanted
  linked i inner := by
    have next := h.lt_length (v.lt_visits_iff.mp inner)
    have := (h.wordAt_of_lt next).2
    rw [h.chain_stored (Nat.lt_of_succ_lt next), h.wordOf_stored (Nat.lt_of_succ_lt next)]
    omega
  done := .inl (Nat.not_lt.mp fun more => Nat.lt_irrefl _ (v.lt_visits_iff.mpr more))

/-- No byte of the file comes from behind the end of its chain. -/
theorem Admits.supplier_eq (h : v.Admits settings r file) {p : Nat} (wanted : p < file.data.size) :
    (v.stored r file).supplier (file.clusterAt 0) file.data.size p = p / v.clusterLength := by
  have own : p / v.clusterLength < file.clusters.length :=
    h.lt_length (Nat.lt_of_le_of_lt (Nat.div_mul_le_self p _) wanted)
  unfold supplier
  cases found : (v.stored r file).chainEnd? (file.clusterAt 0) file.data.size with
  | none => rfl
  | some e =>
    obtain ⟨read, ended, -⟩ := chainEnd?_eq_some found
    have inside := h.lt_length read
    rw [h.chain_stored inside, h.wordOf_stored inside] at ended
    have last : ¬ e + 1 < file.clusters.length := by
      intro inner
      have := (h.wordAt_of_lt inner).2
      omega
    exact Nat.min_eq_left (show p / v.clusterLength ≤ e by omega)

/-- What the walk along the file gathers are its bytes. -/
theorem Admits.gather_eq_data (h : v.Admits settings r file) {n : Nat} {walk : Walk}
    (arrived : (v.stored r file).Arrives (file.clusterAt 0) file.data.size n walk) :
    (v.stored r file).gather walk = file.data := by
  apply Array.ext_getElem?
  intro p
  rcases Nat.lt_or_ge p file.data.size with wanted | behind
  · have low : p / v.clusterLength * v.clusterLength ≤ p := Nat.div_mul_le_self p _
    have inside := h.lt_length (Nat.lt_of_le_of_lt low wanted)
    have within := Nat.lt_div_mul_add v.clusterLength_pos (a := p)
    rw [arrived.getElem?_gather_eq wanted, sourcePosition, h.supplier_eq wanted,
      h.chain_stored inside]
    have byte := h.getElem?_store_data inside (q := p - p / v.clusterLength * v.clusterLength)
      (by omega) (by omega)
    rw [Nat.add_sub_cancel' low] at byte
    exact byte
  · rw [Array.getElem?_eq_none behind,
      Array.getElem?_eq_none (Nat.le_trans (Nat.le_of_eq arrived.size_gather) behind)]

/-- Reading the file succeeds and leaves its bytes at the start of the destination. -/
theorem Admits.read_stored (h : v.Admits settings r file) (memory : Memory) {w : Workspace}
    (fits : file.data.size ≤ w.destination.size) :
    ∃ w', (v.stored r file).read memory w.destination.size file.entry.cluster.toUInt32
        file.entry.size w = .ok file.entry.size w' ∧
      w'.destination = file.data ++ w.destination.extract file.data.size := by
  obtain ⟨valid, small, -⟩ := h.cluster file.length_pos
  have first : file.entry.cluster.toUInt32.toNat = file.clusterAt 0 := by
    rw [UInt16.toNat_toUInt32, file.toNat_entry_cluster]
  have length : file.entry.size.toNat = file.data.size := UInt32.toNat_ofNat_of_lt' h.size_fits
  have completes := h.completes
  rw [← first, ← length] at completes
  obtain ⟨n, arrived⟩ := completes.arrives (by omega)
  rw [first, length] at arrived
  refine ⟨_, read_of_completes (by omega) (by rwa [length]) completes, ?_⟩
  rw [deliver, first, h.gather_eq_data arrived, Bytes.overwrite_zero fits]

/-- **What was stored is loaded.** Once a file that a volume admits is stored in it, the image opens
again, and every path that denotes the name of the file loads it: a destination with room for its
bytes holds them at its start, and behind them what it held before. -/
theorem load_stored {image : Bytes} (opened : ofImage image settings = .ok v)
    (admitted : v.Admits settings r file) :
    ∃ v', ofImage (v.store r file) settings = .ok v' ∧
      ∀ (memory : Memory) (path : String) (w : Workspace),
        ShortName.ofPath? path = some file.name → file.data.size ≤ w.destination.size →
          (∃ w', v'.load memory path w = .ok (UInt32.ofNat file.data.size) w' ∧
            w'.destination = file.data ++ w.destination.extract file.data.size) ∧
          ∃ w', v'.loadIfPresent memory path w = .ok true w' ∧
            w'.destination = file.data ++ w.destination.extract file.data.size := by
  obtain ⟨-, -, -, rfl, -⟩ := eq_of_ofImage opened
  refine ⟨_, admitted.ofImage_store opened, ?_⟩
  intro memory path w isName fits
  obtain ⟨entries, hasEntries, found⟩ := admitted.exists_directory_stored
  obtain ⟨w', read, left⟩ := admitted.read_stored memory
    (w := w.scanned file.name entries) fits
  have loaded : (v.stored r file).load memory path w = .ok file.entry.size w' := by
    rw [load, loadInto_of_entry isName hasEntries found (wholeRoom_eq ..) (Nat.le_refl _)]
    exact restate_ok read
  exact ⟨⟨w', loaded, left⟩, w', orRecover_ok (bind_ok loaded), left⟩

/-- Settings for the sample volume, whose signature is in front of its table. -/
def sampleSettings : Settings :=
  { Settings.standard with signatureOffset := 24, kernelPath := "A.B" }

/-- A file of five bytes in three clusters that are not in order. -/
def sampleFile : StoredFile where
  name := ⟨#v[0x41, 0x20, 0x20, 0x20, 0x20, 0x20, 0x20, 0x20], #v[0x42, 0x20, 0x20]⟩
  clusters := [5, 2, 4]
  data := #[61, 62, 63, 64, 65]
  clusters_ne_nil := by decide

theorem mem_sampleFile {c : UInt16} (member : c ∈ sampleFile.clusters) : c = 5 ∨ c = 2 ∨ c = 4 := by
  simpa [sampleFile] using member

theorem admits_sampleFile : sample.Admits sampleSettings 0 sampleFile where
  header_fits := by decide
  signature_fits := by decide
  has_table := by decide
  distinct := by decide
  is_cluster c member := by
    rcases mem_sampleFile member with rfl | rfl | rfl <;> decide
  has_word c member := by
    rcases mem_sampleFile member with rfl | rfl | rfl <;> decide
  has_bytes c member := by
    rcases mem_sampleFile member with rfl | rfl | rfl <;> decide
  data_fits := by decide
  size_fits := by decide
  has_record := by decide
  in_use := by decide
  first i before := absurd before (Nat.not_lt_zero i)

/-- The sample file is stored and loaded into a destination with room for one byte more. -/
theorem load_stored_sampleFile :
    ofImage sample.image sampleSettings = .ok sample ∧
    sample.Admits sampleSettings 0 sampleFile ∧
    ∃ v', ofImage (sample.store 0 sampleFile) sampleSettings = .ok v' ∧
      ∃ w', v'.load .strict "A.B" (.start (Array.replicate 6 9)) = .ok 5 w' ∧
        w'.destination = #[61, 62, 63, 64, 65, 9] := by
  have opened : ofImage sample.image sampleSettings = .ok sample := by cbv
  obtain ⟨v', opened', loads⟩ := load_stored opened admits_sampleFile
  have isName : ShortName.ofPath? "A.B" = some sampleFile.name := by cbv
  obtain ⟨⟨w', loaded, left⟩, -⟩ :=
    loads .strict "A.B" (.start (Array.replicate 6 9)) isName (by decide)
  exact ⟨opened, admits_sampleFile, v', opened', w', loaded, left⟩

end BootDisk.Volume
