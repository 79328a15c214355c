import BootDisk.Proofs.Lockstep
import BootDisk.Proofs.Opening
import BootDisk.Proofs.Presence

/-!
# Room for a file

A file is loaded into a destination that is as long as it is, or into one that counts as exactly as
long as the file. What the length of the destination decides is only whether there is room: with
room, both forms go like a load into the first bytes of the destination alone, as many as the file
has, and leave the rest as it is (`loadInto_alike_front`). Without room nothing is read at all.
-/

namespace BootDisk

open Loader

/-- The first bytes of a workspace's destination, as a workspace of their own. -/
def Workspace.front (n : Nat) (w : Workspace) : Workspace :=
  .start (w.destination.extract 0 n)

theorem Workspace.size_destination_front {n : Nat} {w : Workspace} (inside : n ≤ w.destination.size) :
    (w.front n).destination.size = n := by
  rw [front, start, Array.size_extract]
  omega

/-- A workspace goes on behind its front. -/
theorem Workspace.beside_front (n : Nat) (w : Workspace) :
    Beside (w.destination.extract n w.destination.size) #[] w.log (w.front n) w where
  destination := by
    rw [front, start, Array.extract_append_extract, Nat.zero_min,
      Array.extract_eq_self_of_le (Nat.le_max_right ..)]
  logs := ⟨#[], rfl, Array.append_empty.symm⟩

namespace Volume

variable {v : Volume} {memory : Memory} {path : String} {entry : DirectoryEntry} {cause : LoadError}
  {w w' : Workspace}

/-- What two runs leave that differ only in what lies behind the first `n` bytes of the
destination. -/
structure LeftAlike (n : Nat) (w w' left left' : Workspace) : Prop where
  front : left.destination.SameStretch left'.destination 0 n
  rest : ∀ p, n ≤ p → left.destination[p]? = w.destination[p]?
  rest' : ∀ p, n ≤ p → left'.destination[p]? = w'.destination[p]?
  logs : ∃ events, left.log = w.log ++ events ∧ left'.log = w'.log ++ events

theorem behind_of_beside {n : Nat} {left onFront : Workspace} (size : onFront.destination.size = n)
    (h : Workspace.Beside (w.destination.extract n w.destination.size) #[] w.log onFront left) :
    ∀ p, n ≤ p → left.destination[p]? = w.destination[p]? := by
  intro p behind
  rw [h.destination, Array.getElem?_append_right (by omega), size, Array.getElem?_extract]
  split
  · rw [Nat.add_sub_cancel' behind]
  · rw [Array.getElem?_eq_none (by omega)]

/-- What runs leave that go like one run on the front of either destination. -/
theorem LeftAlike.of_beside {n : Nat} {left left' onFront : Workspace}
    (size : onFront.destination.size = n)
    (h : Workspace.Beside (w.destination.extract n w.destination.size) #[] w.log onFront left)
    (h' : Workspace.Beside (w'.destination.extract n w'.destination.size) #[] w'.log onFront left') :
    LeftAlike n w w' left left' where
  front := by
    constructor
    · rw [h.destination, Array.size_append]
      omega
    · rw [h'.destination, Array.size_append]
      omega
    · intro p _ before
      rw [h.destination, h'.destination, Array.getElem?_append_left (by omega),
        Array.getElem?_append_left (by omega)]
  rest := behind_of_beside size h
  rest' := behind_of_beside size h'
  logs := by
    obtain ⟨events, told, told₁⟩ := h.logs
    obtain ⟨events', told', told₁'⟩ := h'.logs
    have same : events = events' := by
      rw [told, Array.empty_append, Array.empty_append] at told'
      exact told'
    exact ⟨events, told₁, same ▸ told₁'⟩

/-- What a run leaves that found an entry and went no further. -/
structure FoundOnly (entry : DirectoryEntry) (w left : Workspace) : Prop where
  destination : left.destination = w.destination
  copies : left.copies = w.copies
  log : left.log = w.log.push (.entryFound entry)

theorem foundOnly_searched (found : v.resolve path = .ok entry) (w : Workspace) :
    FoundOnly entry w (v.searched path w) where
  destination := v.destination_searched path w
  copies := v.copies_searched path w
  log := by
    rw [log_searched, found, Array.push_eq_append]
    rfl

/-- A load that fails once its entry is found. -/
theorem foundOnly_of_error {step : Loader LoadError UInt32} {stop : Stop LoadError}
    (found : v.resolve path = .ok entry) (failed : step w = .error stop (v.searched path w)) :
    step.outcome w = .error stop ∧ FoundOnly entry w (step.after w) := by
  rw [outcome_of_error failed, after_of_error failed]
  exact ⟨rfl, foundOnly_searched found w⟩

/-- A load with room for the file goes like one into the front of the destination alone. -/
theorem loadInto_alike_front {choice : DirectoryEntry → Loader LoadError Nat}
    (found : v.resolve path = .ok entry) (fits : entry.size.toNat ≤ w.destination.size)
    (chosen : ∃ room, choice entry (v.searched path w) = .ok room (v.searched path w) ∧
      entry.size.toNat ≤ room ∧ room ≤ w.destination.size) :
    Alike (Workspace.Beside (w.destination.extract entry.size.toNat w.destination.size) #[] w.log)
      (v.load memory path (w.front entry.size.toNat)) (v.loadInto memory choice path w) := by
  apply loadInto_alike (w.beside_front entry.size.toNat)
  · intro entry' found'
    cases found.symm.trans found'
    exact Nat.le_of_eq (w.size_destination_front fits).symm
  · intro entry' found'
    cases found.symm.trans found'
    exact chosen

theorem load_alike_front (found : v.resolve path = .ok entry)
    (fits : entry.size.toNat ≤ w.destination.size) :
    Alike (Workspace.Beside (w.destination.extract entry.size.toNat w.destination.size) #[] w.log)
      (v.load memory path (w.front entry.size.toNat)) (v.load memory path w) := by
  refine loadInto_alike_front found fits ⟨_, wholeRoom_eq .., ?_⟩
  rw [destination_searched]
  exact ⟨fits, Nat.le_refl _⟩

theorem loadExactly_alike_front (found : v.resolve path = .ok entry)
    (fits : entry.size.toNat ≤ w.destination.size) :
    Alike (Workspace.Beside (w.destination.extract entry.size.toNat w.destination.size) #[] w.log)
      (v.load memory path (w.front entry.size.toNat)) (v.loadExactly memory path w) := by
  refine loadInto_alike_front found fits ⟨_, exactRoom_of_le ?_, Nat.le_refl _, fits⟩
  rwa [destination_searched]

/-- Both forms leave alike what starts with the same bytes. -/
theorem loads_leftAlike (memory : Memory) (found : v.resolve path = .ok entry)
    (same : w.destination.SameStretch w'.destination 0 entry.size.toNat) :
    (v.load memory path).outcome w = (v.loadExactly memory path).outcome w' ∧
      LeftAlike entry.size.toNat w w' ((v.load memory path).after w)
        ((v.loadExactly memory path).after w') := by
  have fits : entry.size.toNat ≤ w.destination.size := by simpa using same.inside
  have fits' : entry.size.toNat ≤ w'.destination.size := by simpa using same.inside'
  have front : w'.front entry.size.toNat = w.front entry.size.toNat := by
    have bytes := same.extract_eq
    rw [Nat.zero_add] at bytes
    rw [Workspace.front, Workspace.front, bytes]
  -- Both runs are compared with the load into the front that the two destinations share.
  have alike : Alike _ (v.load memory path _) _ := load_alike_front found fits
  have alike' : Alike _ (v.load memory path _) _ := loadExactly_alike_front found fits'
  rw [front] at alike'
  refine ⟨alike.outcome_eq.symm.trans alike'.outcome_eq,
    LeftAlike.of_beside ?_ alike.after alike'.after⟩
  rw [v.size_after_load, Workspace.size_destination_front fits]

/-- Without room nothing is read. -/
theorem load_of_no_room (memory : Memory) (found : v.resolve path = .ok entry)
    (valid : 2 ≤ entry.cluster.toNat) (noRoom : w.destination.size < entry.size.toNat) :
    v.load memory path w =
      .error (.failure (.abort (.destinationTooSmall entry.size.toNat w.destination.size)))
        (v.searched path w) := by
  have number : entry.cluster.toUInt32.toNat = entry.cluster.toNat := entry.cluster.toNat_toUInt32
  have small := entry.cluster.toNat_lt
  obtain ⟨cluster, isCluster⟩ := Cluster.exists_ofIndex_iff.mpr
    (show 2 ≤ entry.cluster.toUInt32.toNat ∧ entry.cluster.toUInt32.toNat ≤ 65535 by omega)
  rw [load_of_resolve found]
  exact restate_failure (read_of_no_room isCluster noRoom)

/-- Without a first cluster nothing is read either, whether there is room or not. -/
theorem loadInto_of_no_cluster {choice : DirectoryEntry → Loader LoadError Nat} {room : Nat}
    (found : v.resolve path = .ok entry) (invalid : entry.cluster.toNat < 2)
    (chosen : choice entry (v.searched path w) = .ok room (v.searched path w))
    (inside : room ≤ w.destination.size) :
    v.loadInto memory choice path w =
      .error (.failure (.abort (.invalidCluster entry.cluster.toNat))) (v.searched path w) := by
  have number : entry.cluster.toUInt32.toNat = entry.cluster.toNat := entry.cluster.toNat_toUInt32
  rw [loadInto_of_resolve found chosen inside, ← number]
  exact restate_failure (read_of_invalid (by omega))

/-- How loading a path that denotes an entry depends on the room for it. The form that counts the
destination as exactly as long as the file is only asked for with a destination that has room. -/
structure LoadsByRoom (v : Volume) (memory : Memory) (path : String) (entry : DirectoryEntry) :
    Prop where
  /-- With room, both forms go alike, and what lies behind the file's bytes does not matter. -/
  enough : ∀ w w', w.destination.SameStretch w'.destination 0 entry.size.toNat →
    (v.load memory path).outcome w = (v.loadExactly memory path).outcome w' ∧
      LeftAlike entry.size.toNat w w' ((v.load memory path).after w)
        ((v.loadExactly memory path).after w')
  /-- Without room no cluster is visited. -/
  tooSmall : 2 ≤ entry.cluster.toNat → ∀ w, w.destination.size < entry.size.toNat →
    (v.load memory path).outcome w =
        .error (.failure (.abort (.destinationTooSmall entry.size.toNat w.destination.size))) ∧
      FoundOnly entry w ((v.load memory path).after w)
  /-- A first cluster that is none is noticed before the room is. -/
  noCluster : entry.cluster.toNat < 2 → ∀ w,
    ((v.load memory path).outcome w =
        .error (.failure (.abort (.invalidCluster entry.cluster.toNat))) ∧
      FoundOnly entry w ((v.load memory path).after w)) ∧
    (entry.size.toNat ≤ w.destination.size →
      (v.loadExactly memory path).outcome w =
          .error (.failure (.abort (.invalidCluster entry.cluster.toNat))) ∧
        FoundOnly entry w ((v.loadExactly memory path).after w))

theorem loadsByRoom (memory : Memory) (found : v.resolve path = .ok entry) :
    v.LoadsByRoom memory path entry := by
  constructor
  · intro w w' same
    exact loads_leftAlike memory found same
  · intro valid w noRoom
    exact foundOnly_of_error found (load_of_no_room memory found valid noRoom)
  · intro invalid w
    constructor
    · apply foundOnly_of_error found
      apply loadInto_of_no_cluster found invalid (wholeRoom_eq ..)
      rw [destination_searched]
    · intro fits
      have hasRoom : entry.size.toNat ≤ (v.searched path w).destination.size := by
        rwa [destination_searched]
      apply foundOnly_of_error found
      exact loadInto_of_no_cluster found invalid (exactRoom_of_le hasRoom) fits

/-- Both forms end for the same reason if the path denotes no entry, and change nothing. -/
structure Misses (v : Volume) (memory : Memory) (path : String) (cause : LoadError) : Prop where
  load : ∀ w, (v.load memory path).outcome w = .error (.failure cause) ∧
    ((v.load memory path).after w).destination = w.destination ∧
    ((v.load memory path).after w).log = w.log
  loadExactly : ∀ w, (v.loadExactly memory path).outcome w = .error (.failure cause) ∧
    ((v.loadExactly memory path).after w).destination = w.destination ∧
    ((v.loadExactly memory path).after w).log = w.log

theorem loadInto_of_missing_unchanged (memory : Memory)
    (choice : DirectoryEntry → Loader LoadError Nat) (missing : v.resolve path = .error cause)
    (w : Workspace) :
    (v.loadInto memory choice path).outcome w = .error (.failure cause) ∧
      ((v.loadInto memory choice path).after w).destination = w.destination ∧
      ((v.loadInto memory choice path).after w).log = w.log := by
  have failed : v.loadInto memory choice path w = _ := loadInto_of_missing missing
  rw [outcome_of_error failed, after_of_error failed]
  exact ⟨rfl, v.destination_searched path w, log_searched_of_missing missing⟩

theorem misses (memory : Memory) (missing : v.resolve path = .error cause) :
    v.Misses memory path cause where
  load := loadInto_of_missing_unchanged memory wholeRoom missing
  loadExactly := loadInto_of_missing_unchanged memory exactRoom missing

theorem resolve_of_no_name (noName : ShortName.ofPath? path = none) :
    v.resolve path = .error .unsupportedPath := by
  rw [resolve, noName]

/-- A name that is looked up in vain is that of no file. -/
theorem resolve_of_lookup_eq_none {name : ShortName} (isName : ShortName.ofPath? path = some name)
    (absent : (v.lookup memory path).outcome w = .ok none) :
    v.resolve path = .error .notFound := by
  obtain ⟨cause, isAbsence, missing⟩ := lookup_eq_none_iff.mp absent
  rcases isAbsence with rfl | rfl
  · cases resolves_of_resolve missing with
    | unsupported noName =>
      rw [isName] at noName
      cases noName
  · exact missing

/-- **The length of a destination is a threshold.** If a path denotes an entry and the destination
has room for the file, then loading into it comes to the same, is logged alike and leaves the same
first bytes as loading into any memory that starts with the same bytes and counts as exactly as long
as the file, and whatever lies behind these bytes stays as it is. A destination that is too short is
refused before a cluster is visited, unless the first cluster is none, which is found out before. If
the path denotes no entry, both forms say so for the same reason. -/
theorem room_is_threshold (v : Volume) (memory : Memory) (path : String) (w : Workspace) :
    (∀ entry, (v.lookup memory path).outcome w = .ok (some entry) →
      v.LoadsByRoom memory path entry) ∧
    (ShortName.ofPath? path = none → v.Misses memory path .unsupportedPath) ∧
    (∀ name, ShortName.ofPath? path = some name → (v.lookup memory path).outcome w = .ok none →
      v.Misses memory path .notFound) ∧
    ∀ reason, (v.lookup memory path).outcome w = .error (.failure reason) →
      v.Misses memory path (.abort reason) := by
  refine ⟨?_, ?_, ?_, ?_⟩
  · intro entry found
    exact loadsByRoom memory (lookup_eq_some_iff.mp found)
  · intro noName
    exact misses memory (resolve_of_no_name noName)
  · intro name isName absent
    exact misses memory (resolve_of_lookup_eq_none isName absent)
  · intro reason broken
    obtain ⟨reason', missing, same⟩ := lookup_eq_error_iff.mp broken
    cases same
    exact misses memory missing

/-- The sample volume with an entry whose first cluster is none. -/
def sampleClusterless : Volume :=
  { sampleWithEntry with image := sampleWithEntry.image.overwrite 64 #[1] }

/-- A file of four bytes is loaded into five bytes like into any four that are the same, and refused
by three. On other volumes its first cluster or its directory is missing, and other paths denote
nothing. -/
theorem room_is_threshold_sample :
    ((sampleWithEntry.load .strict "A.B").outcome (.start #[9, 9, 9, 9, 7]) =
        (sampleWithEntry.loadExactly .strict "A.B").outcome (.start #[9, 9, 9, 9]) ∧
      LeftAlike 4 (.start #[9, 9, 9, 9, 7]) (.start #[9, 9, 9, 9])
        ((sampleWithEntry.load .strict "A.B").after (.start #[9, 9, 9, 9, 7]))
        ((sampleWithEntry.loadExactly .strict "A.B").after (.start #[9, 9, 9, 9]))) ∧
    (sampleWithEntry.load .strict "A.B").outcome (.start #[9, 9, 9]) =
      .error (.failure (.abort (.destinationTooSmall 4 3))) ∧
    ((sampleClusterless.load .strict "A.B").outcome (.start #[]) =
        .error (.failure (.abort (.invalidCluster 1))) ∧
      (sampleClusterless.loadExactly .strict "A.B").outcome (.start #[9, 9, 9, 9]) =
        .error (.failure (.abort (.invalidCluster 1)))) ∧
    sampleWithEntry.Misses .strict "A.C" .notFound ∧
    sampleWithEntry.Misses .strict "/A.B" .unsupportedPath ∧
    ({ sample with image := #[] } : Volume).Misses .strict "A.B" (.abort (.outOfBounds 38 32)) := by
  have found : (sampleWithEntry.lookup .strict "A.B").outcome (.start #[]) =
      .ok (some sampleEntry) := lookup_eq_some_iff.mpr (by decide +kernel)
  have clusterless : (sampleClusterless.lookup .strict "A.B").outcome (.start #[]) =
      .ok (some { sampleEntry with cluster := 1 }) := lookup_eq_some_iff.mpr (by decide +kernel)
  have isName : ShortName.ofPath? "A.C" =
      some ⟨ShortName.pad 8 [0x41], ShortName.pad 3 [0x43]⟩ := by decide +kernel
  have absent : (sampleWithEntry.lookup .strict "A.C").outcome (.start #[]) = .ok none :=
    lookup_eq_none_iff.mpr ⟨.notFound, .inr rfl, by decide +kernel⟩
  have noName : ShortName.ofPath? "/A.B" = none := by decide +kernel
  have shut : (({ sample with image := #[] } : Volume).lookup .strict "A.B").outcome (.start #[]) =
      .error (.failure (.outOfBounds 38 32)) :=
    lookup_eq_error_iff.mpr ⟨.outOfBounds 38 32, by decide +kernel, rfl⟩
  have stretch : Bytes.SameStretch #[9, 9, 9, 9, 7] #[9, 9, 9, 9] 0 4 :=
    ⟨by decide, by decide, by decide⟩
  have ofEntry := (room_is_threshold sampleWithEntry .strict "A.B" (.start #[])).1 _ found
  obtain ⟨noCluster, -⟩ := room_is_threshold sampleClusterless .strict "A.B" (.start #[])
  obtain ⟨-, -, ofName, -⟩ := room_is_threshold sampleWithEntry .strict "A.C" (.start #[])
  obtain ⟨-, ofNone, -, -⟩ := room_is_threshold sampleWithEntry .strict "/A.B" (.start #[])
  obtain ⟨-, -, -, ofShut⟩ :=
    room_is_threshold { sample with image := #[] } .strict "A.B" (.start #[])
  have byRoom := noCluster _ clusterless
  exact ⟨ofEntry.enough _ _ stretch, (ofEntry.tooSmall (by decide) (.start #[9, 9, 9]) (by decide)).1,
    ⟨(byRoom.noCluster (by decide) (.start #[])).1.1,
      ((byRoom.noCluster (by decide) (.start #[9, 9, 9, 9])).2 (by decide)).1⟩,
    ofName _ isName absent, ofNone noName, ofShut _ shut⟩

end Volume

end BootDisk
