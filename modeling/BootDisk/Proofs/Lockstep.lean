import BootDisk.Proofs.Stages

/-!
# Runs in lockstep

Two runs of a step from different workspaces are compared by how they end: alike, if they give the
same value or stop for the same reason, and leave workspaces that are still related (`Alike`). What
is told here is how loading goes where one destination is the front part of the other: the runs end
alike, and behind the front part nothing has changed (`loadInto_alike`).
-/

namespace BootDisk

namespace Loader

variable {ε ε' α β : Type} {R : Workspace → Workspace → Prop} {w w' : Workspace}

/-- Two runs that end alike, and in related workspaces. -/
inductive Alike (R : Workspace → Workspace → Prop) :
    EStateM.Result (Stop ε) Workspace α → EStateM.Result (Stop ε) Workspace α → Prop where
  | ok (a : α) {w w' : Workspace} (related : R w w') : Alike R (.ok a w) (.ok a w')
  | error (stop : Stop ε) {w w' : Workspace} (related : R w w') :
    Alike R (.error stop w) (.error stop w')

namespace Alike

/-- Steps behind runs that end alike end alike, if they do so from every value that the runs may
have given. -/
theorem bind {step step' : Loader ε α} {next next' : α → Loader ε β}
    (first : Alike R (step w) (step' w'))
    (second : ∀ a w₁ w₁', step w = .ok a w₁ → R w₁ w₁' → Alike R (next a w₁) (next' a w₁')) :
    Alike R ((step >>= next) w) ((step' >>= next') w') := by
  cases ended : step w with
  | ok a w₁ =>
    cases ended' : step' w' with
    | ok a' w₁' =>
      rw [ended, ended'] at first
      cases first with
      | ok _ related =>
        rw [bind_ok ended, bind_ok ended']
        exact second a w₁ w₁' ended related
    | error stop' w₁' =>
      rw [ended, ended'] at first
      cases first
  | error stop w₁ =>
    cases ended' : step' w' with
    | ok a' w₁' =>
      rw [ended, ended'] at first
      cases first
    | error stop' w₁' =>
      rw [ended, ended'] at first
      cases first with
      | error _ related =>
        rw [bind_error ended, bind_error ended']
        exact .error stop related

theorem restate {f : ε → ε'} {step step' : Loader ε α} (alike : Alike R (step w) (step' w')) :
    Alike R (step.restate f w) (step'.restate f w') := by
  simp only [Loader.restate, EStateM.adaptExcept]
  generalize step w = result, step' w' = result' at alike
  cases alike with
  | ok a related => exact .ok a related
  | error stop related => exact .error (stop.map f) related

theorem orRecover {step step' : Loader ε α} {recover : ε → Loader ε' α}
    (alike : Alike R (step w) (step' w'))
    (second : ∀ reason w₁ w₁', R w₁ w₁' → Alike R (recover reason w₁) (recover reason w₁')) :
    Alike R (step.orRecover recover w) (step'.orRecover recover w') := by
  simp only [Loader.orRecover]
  generalize step w = result, step' w' = result' at alike
  cases alike with
  | ok a related => exact .ok a related
  | error stop related =>
    cases stop with
    | failure reason => exact second reason _ _ related
    | fault cause => exact .error (.fault cause) related

theorem outcome_eq {step step' : Loader ε α} (alike : Alike R (step w) (step' w')) :
    step.outcome w = step'.outcome w' := by
  unfold outcome
  generalize step w = result, step' w' = result' at alike
  cases alike with
  | ok a related => rfl
  | error stop related => rfl

theorem after {step step' : Loader ε α} (alike : Alike R (step w) (step' w')) :
    R (step.after w) (step'.after w') := by
  unfold Loader.after
  generalize step w = result, step' w' = result' at alike
  cases alike with
  | ok a related => exact related
  | error stop related => exact related

end Alike

end Loader

/-- A workspace beside one whose destination goes on with `rest`. What was logged in the two since
the logs were `front` and `front'` is the same. -/
structure Workspace.Beside (rest : Bytes) (front front' : Array Event) (w w' : Workspace) : Prop where
  destination : w'.destination = w.destination ++ rest
  logs : ∃ events, w.log = front ++ events ∧ w'.log = front' ++ events

/-- What is written inside the front part of a byte string leaves the rest as it is. -/
theorem Bytes.overwrite_append {b source : Bytes} (rest : Bytes) (fits : source.size ≤ b.size) :
    (b ++ rest).overwrite 0 source = b.overwrite 0 source ++ rest := by
  apply Array.ext_getElem?
  intro i
  rw [getElem?_overwrite, Array.getElem?_append, Array.getElem?_append, size_overwrite,
    getElem?_overwrite, Array.size_append]
  by_cases inside : i < source.size
  · rw [if_pos (by omega), if_pos (by omega), if_pos (by omega)]
  · rw [if_neg (by omega)]
    split
    · rw [if_neg (by omega)]
    · rfl

namespace Workspace.Beside

variable {rest : Bytes} {front front' : Array Event} {w w' : Workspace}

theorem start (destination rest : Bytes) (event event' : Event) :
    Beside rest #[event] #[event'] ((Workspace.start destination).logged event)
      ((Workspace.start (destination ++ rest)).logged event') :=
  ⟨rfl, #[], rfl, rfl⟩

/-- Both logs may be told the same. -/
theorem told (h : Beside rest front front' w w') {left left' : Workspace} (events : Array Event)
    (destination : left.destination = w.destination) (log : left.log = w.log ++ events)
    (destination' : left'.destination = w'.destination) (log' : left'.log = w'.log ++ events) :
    Beside rest front front' left left' := by
  obtain ⟨before, same, same'⟩ := h.logs
  refine ⟨?_, before ++ events, ?_, ?_⟩
  · rw [destination, destination', h.destination]
  · rw [log, same, Array.append_assoc]
  · rw [log', same', Array.append_assoc]

theorem logged (h : Beside rest front front' w w') (event : Event) :
    Beside rest front front' (w.logged event) (w'.logged event) :=
  h.told #[event] rfl Array.push_eq_append rfl Array.push_eq_append

theorem searched (h : Beside rest front front' w w') (v : Volume) (path : String) :
    Beside rest front front' (v.searched path w) (v.searched path w') :=
  h.told _ (v.destination_searched path w) (v.log_searched path w) (v.destination_searched path w')
    (v.log_searched path w')

/-- A walk whose bytes fit is delivered alike. -/
theorem deliver (h : Beside rest front front' w w') (v : Volume) {walk : Walk}
    (fits : (v.gather walk).size ≤ w.destination.size) :
    Beside rest front front' (v.deliver walk w) (v.deliver walk w') := by
  obtain ⟨before, same, same'⟩ := h.logs
  refine ⟨?_, before ++ walk.visits.map fun visit =>
    .clusterVisited visit.cluster visit.offset visit.link, ?_, ?_⟩
  · show w'.destination.overwrite 0 (v.gather walk) = w.destination.overwrite 0 (v.gather walk) ++ rest
    rw [h.destination, Bytes.overwrite_append rest fits]
  · rw [Volume.deliver, same, Array.append_assoc]
  · rw [Volume.deliver, same', Array.append_assoc]

end Workspace.Beside

namespace Volume

open Loader

variable {v : Volume} {memory : Memory} {rest : Bytes} {front front' : Array Event}
  {w w' : Workspace} {room room' : Nat}

/-- Reads with enough room end alike, whatever the room. -/
theorem read_alike (h : Workspace.Beside rest front front' w w') (first : UInt32) {size : UInt32}
    (fits : size.toNat ≤ room) (inside : room ≤ w.destination.size)
    (fits' : size.toNat ≤ room') (inside' : room' ≤ w'.destination.size) :
    Alike (Workspace.Beside rest front front') (v.read memory room first size w)
      (v.read memory room' first size w') := by
  cases isCluster : Cluster.ofIndex first.toNat with
  | error reason =>
    rw [read_of_no_cluster isCluster, read_of_no_cluster isCluster]
    exact .error (.failure reason) h
  | ok cluster =>
    rw [read_of_walk isCluster fits inside, read_of_walk isCluster fits' inside']
    have supplied := v.size_gather_le (Cluster.lt_of_ofIndex isCluster) size
    have delivered := h.deliver v (Nat.le_trans supplied (Nat.le_trans fits inside))
    cases (v.walk first.toNat size).failure? with
    | some reason => exact .error (.failure reason) delivered
    | none => exact .ok size delivered

/-- A load into the whole destination and one into a part of a longer destination end alike, if
there is room for the file in either. -/
theorem loadInto_alike (h : Workspace.Beside rest front front' w w') {path : String}
    {choice : DirectoryEntry → Loader LoadError Nat}
    (enough : ∀ entry, v.resolve path = .ok entry → entry.size.toNat ≤ w.destination.size)
    (chosen : ∀ entry, v.resolve path = .ok entry → ∃ room,
      choice entry (v.searched path w') = .ok room (v.searched path w') ∧
        entry.size.toNat ≤ room ∧ room ≤ w'.destination.size) :
    Alike (Workspace.Beside rest front front') (v.load memory path w)
      (v.loadInto memory choice path w') := by
  have searched := h.searched v path
  cases resolved : v.resolve path with
  | error cause =>
    have missing : v.load memory path w = _ := loadInto_of_missing resolved
    rw [missing, loadInto_of_missing resolved]
    exact .error (.failure cause) searched
  | ok entry =>
    obtain ⟨room, hasRoom, fits, inside⟩ := chosen entry resolved
    rw [load_of_resolve resolved, loadInto_of_resolve resolved hasRoom inside]
    apply Alike.restate
    apply read_alike searched _ (enough entry resolved) _ fits
    · rw [destination_searched]
      exact inside
    · exact Nat.le_of_eq (by rw [destination_searched])

end Volume

end BootDisk
