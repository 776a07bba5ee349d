import Symulator.Server.Terminal
import Symulator.Srk.EngineLoop

/-! # The identity of a train

A train goes by the UID of its consist. The terminal refuses a second train of a consist by the snapshot it
looks at, which may be older than the requests under way; the engine asks of a spawn only that the section be
free.
-/

namespace Symulator.Server

open Symulator.Library Symulator.Engine Symulator.Srk

set_option autoImplicit false

/-- The engine, its queue of fleet commands, the snapshot published last, and the requests that terminal commands
have decided on and are about to queue. -/
structure TerminalState (φ : Type) where
  world : World φ
  fleetCommands : List (FleetCommand φ) := []
  snapshot : Option EngineSnapshot := none
  decided : List (FleetCommand φ) := []

inductive TerminalEvent (φ : Type)
  | spawn (args : List String)
  | despawn (args : List String)
  | enqueue (i : Nat)
  | engine (a : Action φ)
  | drain
  | publish

section System

variable {ν φ : Type} (assemble : AssembleFn ν φ) (fleet : FleetRegistry ν) (dynamics : TrainDynamics φ)

/-- Commands decide and queue in two steps, and the engine may take any of its own between them. -/
def TerminalState.step (t : TerminalState φ) : TerminalEvent φ → Option (TerminalState φ)
  | .spawn args =>
    match SpawnCommand.execute assemble fleet t.snapshot args with
    | .error _ => some t
    | .ok outcome => some { t with decided := t.decided ++ outcome.request.toList }
  | .despawn args =>
    some { t with decided := t.decided ++ (DespawnCommand.execute fleet t.snapshot args).request.toList }
  | .enqueue i =>
    (t.decided[i]?).map fun request =>
      { t with decided := t.decided.eraseIdx i, fleetCommands := t.fleetCommands ++ [request] }
  | .engine (.fleetCommand _) => none
  | .engine a => some { t with world := t.world.attempt dynamics a }
  | .drain =>
    match t.fleetCommands with
    | [] => none
    | cmd :: rest =>
      some { t with world := t.world.attempt dynamics (.fleetCommand cmd), fleetCommands := rest }
  | .publish => some { t with snapshot := some (publish dynamics t.world.state t.world.fleet) }

def trainUids (w : World φ) : List UID := w.fleet.map fun entry => entry.sim.trainUid

def UniqueTrains (t : TerminalState φ) : Prop := (trainUids t.world).Nodup

/-- A despawn that is drained takes off one train at most, and that is one it names. -/
def RemovesNamed (t : TerminalState φ) (e : TerminalEvent φ) (t' : TerminalState φ) : Prop :=
  ∀ trainUid rest, e = .drain → t.fleetCommands = .despawn trainUid :: rest →
    t'.world.fleet = t.world.fleet ∨ ∃ before entry after, t.world.fleet = before ++ entry :: after ∧
      entry.sim.trainUid = trainUid ∧ t'.world.fleet = before ++ after

/-- A spawn that is drained and finds its section free finds no active train of its consist. -/
def SpawnsNew (t : TerminalState φ) (e : TerminalEvent φ) : Prop :=
  ∀ initial fromUid rest, e = .drain → t.fleetCommands = .spawn initial fromUid :: rest →
    (∃ sec, t.world.state.findTrackSection initial.currentSectionUid = some sec ∧ sec.occupancy = .free) →
      initial.trainUid ∉ trainUids t.world

variable {assemble fleet dynamics} {w w' : World φ} {t t' : TerminalState φ}

/-! ## What the engine does to the trains -/

theorem trainUids_step {a : Action φ} (hSpawn : ∀ initial fromUid, a ≠ .fleetCommand (.spawn initial fromUid))
    (hStep : w.step dynamics a = some w') : (trainUids w').Sublist (trainUids w) := by
  obtain rfl | hTick := eq_or_ne a .tickTrains
  · obtain ⟨-, hFleet, -, -⟩ := World.step_tickTrains hStep
    have hKeeps : (fun entry => (ticked dynamics w.state entry).sim.trainUid) = fun entry => entry.sim.trainUid := by
      funext entry
      obtain ⟨-, physics, fromUid, hSpec⟩ := @tickTrain_spec φ dynamics w.state entry
      rw [hSpec]
    have hMap : (w.fleet.map (ticked dynamics w.state)).map (fun entry => entry.sim.trainUid) = trainUids w := by
      rw [List.map_map]
      exact congrArg (fun f => w.fleet.map f) hKeeps
    rw [trainUids, hFleet, ← hMap]
    exact List.filter_sublist.map _
  · obtain hPart | ⟨initial, fromUid, hCommand, -⟩ := World.fleet_step hTick hStep
    · exact hPart.map _
    · exact absurd hCommand (hSpawn initial fromUid)

theorem trainUids_attempt {a : Action φ} (hSpawn : ∀ initial fromUid, a ≠ .fleetCommand (.spawn initial fromUid)) :
    (trainUids (w.attempt dynamics a)).Sublist (trainUids w) := by
  unfold World.attempt
  cases hStep : w.step dynamics a with
  | none => exact List.Sublist.refl _
  | some w' => exact trainUids_step hSpawn hStep

theorem trainUids_attempt_spawn (initial : TrainSimState φ) (fromUid : UID) :
    ((∃ sec, w.state.findTrackSection initial.currentSectionUid = some sec ∧ sec.occupancy = .free) ∧
      trainUids (w.attempt dynamics (.fleetCommand (.spawn initial fromUid))) = trainUids w ++ [initial.trainUid]) ∨
    ((¬ ∃ sec, w.state.findTrackSection initial.currentSectionUid = some sec ∧ sec.occupancy = .free) ∧
      trainUids (w.attempt dynamics (.fleetCommand (.spawn initial fromUid))) = trainUids w) := by
  unfold World.attempt
  cases hStep : w.step dynamics (.fleetCommand (.spawn initial fromUid)) with
  | some w' =>
    obtain ⟨hFree, -, hFleet⟩ := spawn_eq_ok.mp (World.step_fleetCommand.mp hStep).1
    refine Or.inl ⟨hFree, ?_⟩
    rw [Option.getD_some, trainUids, hFleet, List.map_append]
    rfl
  | none =>
    refine Or.inr ⟨?_, rfl⟩
    rintro ⟨sec, hFind, hFree⟩
    simp [World.step, executeFleetCommand, Engine.spawn, hFind, hFree] at hStep

theorem nodup_attempt_spawn_iff {initial : TrainSimState φ} {fromUid : UID} (h : (trainUids w).Nodup) :
    (trainUids (w.attempt dynamics (.fleetCommand (.spawn initial fromUid)))).Nodup ↔
      ((∃ sec, w.state.findTrackSection initial.currentSectionUid = some sec ∧ sec.occupancy = .free) →
        initial.trainUid ∉ trainUids w) := by
  rcases @trainUids_attempt_spawn φ dynamics w initial fromUid with ⟨hFree, hUids⟩ | ⟨hTaken, hUids⟩
  · rw [hUids, ← List.concat_eq_append, List.nodup_concat]
    exact ⟨fun hNodup _ => hNodup.1, fun hNew => ⟨hNew hFree, h⟩⟩
  · rw [hUids]
    exact ⟨fun _ hFree => absurd hFree hTaken, fun _ => h⟩

theorem removesNamed_attempt (w : World φ) (trainUid : UID) :
    (w.attempt dynamics (.fleetCommand (.despawn trainUid))).fleet = w.fleet ∨
      ∃ before entry after, w.fleet = before ++ entry :: after ∧ entry.sim.trainUid = trainUid ∧
        (w.attempt dynamics (.fleetCommand (.despawn trainUid))).fleet = before ++ after := by
  unfold World.attempt
  cases hStep : w.step dynamics (.fleetCommand (.despawn trainUid)) with
  | none => exact Or.inl rfl
  | some w' =>
    obtain ⟨entry, hFind, -, hFleet⟩ := despawn_eq_ok.mp (World.step_fleetCommand.mp hStep).1
    obtain ⟨hUid, before, after, hSplit, hBefore⟩ := List.find?_eq_some_iff_append.mp hFind
    refine Or.inr ⟨before, entry, after, hSplit, of_decide_eq_true hUid, ?_⟩
    rw [Option.getD_some, hFleet, hSplit, List.eraseP_append_right _ (fun e he => by simpa using hBefore e he)]
    simp [of_decide_eq_true hUid]

/-! ## Every event -/

theorem trainUids_of_not_drain {e : TerminalEvent φ} (hDrain : e ≠ .drain)
    (hStep : t.step assemble fleet dynamics e = some t') : (trainUids t'.world).Sublist (trainUids t.world) := by
  cases e with
  | spawn args =>
    simp only [TerminalState.step] at hStep
    split at hStep <;> cases hStep <;> exact List.Sublist.refl _
  | despawn args | publish =>
    cases hStep
    exact List.Sublist.refl _
  | enqueue i =>
    obtain ⟨request, -, rfl⟩ := Option.map_eq_some_iff.mp hStep
    exact List.Sublist.refl _
  | drain => exact absurd rfl hDrain
  | engine a =>
    cases a with
    | fleetCommand cmd => cases hStep
    | command | onTick | tickTrains | advanceTick =>
      cases hStep
      exact trainUids_attempt (by simp)

theorem step_drain (hStep : t.step assemble fleet dynamics .drain = some t') : ∃ cmd rest,
    t.fleetCommands = cmd :: rest ∧
      t' = { t with world := t.world.attempt dynamics (.fleetCommand cmd), fleetCommands := rest } := by
  simp only [TerminalState.step] at hStep
  split at hStep
  · cases hStep
  · rename_i cmd rest hQueue
    cases hStep
    exact ⟨cmd, rest, hQueue, rfl⟩

theorem step_iff_spawnsNew {e : TerminalEvent φ} (h : UniqueTrains t)
    (hStep : t.step assemble fleet dynamics e = some t') :
    RemovesNamed t e t' ∧ UniqueTrains t' ↔ SpawnsNew t e := by
  by_cases hDrain : e = .drain
  · rw [hDrain] at hStep
    obtain ⟨cmd, rest, hQueue, rfl⟩ := step_drain hStep
    cases cmd with
    | spawn initial fromUid =>
      have hUnique := @nodup_attempt_spawn_iff φ dynamics t.world initial fromUid h
      constructor
      · rintro ⟨-, hNodup⟩ initial' fromUid' rest' - hQueue'
        cases hQueue.symm.trans hQueue'
        exact hUnique.mp hNodup
      · intro hNew
        refine ⟨fun trainUid rest' _ hQueue' => ?_, hUnique.mpr (hNew initial fromUid rest hDrain hQueue)⟩
        cases hQueue.symm.trans hQueue'
    | despawn trainUid =>
      constructor
      · rintro - initial fromUid rest' - hQueue'
        cases hQueue.symm.trans hQueue'
      · rintro -
        refine ⟨fun uid rest' _ hQueue' => ?_, h.sublist (trainUids_attempt (by simp))⟩
        cases hQueue.symm.trans hQueue'
        exact removesNamed_attempt t.world trainUid
  · refine ⟨fun _ initial fromUid rest hDrain' => absurd hDrain' hDrain, fun _ => ⟨?_, ?_⟩⟩
    · exact fun trainUid rest hDrain' => absurd hDrain' hDrain
    · exact h.sublist (trainUids_of_not_drain hDrain hStep)

/-- From a state with unique trains the trains stay unique, and a despawn takes off one it names, exactly when no
spawn is let on to a free section while a train of its consist is active. -/
theorem uniqueTrains_iff {events : List (TerminalEvent φ)} (h : UniqueTrains t)
    (hRun : run (TerminalState.step assemble fleet dynamics) t events = some t') :
    Always (TerminalState.step assemble fleet dynamics) UniqueTrains t events ∧
        EachStep (TerminalState.step assemble fleet dynamics) RemovesNamed t events ↔
      Guarded (TerminalState.step assemble fleet dynamics) SpawnsNew t events := by
  rw [← eachStep_and_iff h]
  refine eachStep_iff_guarded_within (fun u e u' => RemovesNamed u e u' ∧ UniqueTrains u') UniqueTrains
    (fun _ _ => True) SpawnsNew ?_ ?_ h (guarded_of_forall_mem (fun _ _ _ => trivial) t) hRun
  · intro u e u' hu _ hStep
    exact step_iff_spawnsNew hu hStep
  · intro u e u' hu _ hNew hStep
    exact ((step_iff_spawnsNew hu hStep).mpr hNew).2

/-! ## One spawn at a time -/

def spawnUid : FleetCommand φ → Option UID
  | .spawn initial _ => some initial.trainUid
  | .despawn _ => none

def spawnUids (requests : List (FleetCommand φ)) : List UID := requests.filterMap spawnUid

/-- The consists with a spawn decided on or queued, or with an active train. -/
def TerminalState.underWay (t : TerminalState φ) : List UID :=
  spawnUids t.decided ++ spawnUids t.fleetCommands ++ trainUids t.world

/-- The snapshot shows every train of the consist that is active. -/
def TerminalState.ShowsTrain (t : TerminalState φ) (trainUid : UID) : Prop :=
  trainUid ∈ trainUids t.world → ∃ snap, t.snapshot = some snap ∧ ∃ train ∈ snap.trains, train.uid = trainUid

variable (assemble fleet) in
/-- A spawn is decided on only when none of its consist is decided on or queued, and the snapshot shows the train
if there is one. -/
def OneAtATime (t : TerminalState φ) (e : TerminalEvent φ) : Prop :=
  ∀ args outcome initial fromUid, e = .spawn args →
    SpawnCommand.execute assemble fleet t.snapshot args = .ok outcome →
    outcome.request = some (.spawn initial fromUid) →
      initial.trainUid ∉ spawnUids t.decided ++ spawnUids t.fleetCommands ∧ t.ShowsTrain initial.trainUid

theorem underWay_count (t : TerminalState φ) (uid : UID) : t.underWay.count uid =
    (spawnUids t.decided).count uid + (spawnUids t.fleetCommands).count uid + (trainUids t.world).count uid := by
  rw [TerminalState.underWay, List.count_append, List.count_append]

theorem spawnUids_append (requests more : List (FleetCommand φ)) :
    spawnUids (requests ++ more) = spawnUids requests ++ spawnUids more := List.filterMap_append

theorem spawnUids_spawn (initial : TrainSimState φ) (fromUid : UID) :
    spawnUids [.spawn initial fromUid] = [initial.trainUid] := rfl

theorem spawnUids_despawn (trainUid : UID) : spawnUids [(.despawn trainUid : FleetCommand φ)] = [] := rfl

theorem spawnUids_eraseIdx {requests : List (FleetCommand φ)} {i : Nat} {request : FleetCommand φ}
    (h : requests[i]? = some request) (uid : UID) : (spawnUids requests).count uid =
      (spawnUids [request]).count uid + (spawnUids (requests.eraseIdx i)).count uid := by
  obtain ⟨hLt, hGet⟩ := List.getElem?_eq_some_iff.mp h
  have hPerm := (List.getElem_cons_eraseIdx_perm hLt).filterMap spawnUid
  rw [hGet] at hPerm
  rw [← List.count_append, ← spawnUids_append]
  exact (hPerm.count_eq uid).symm

theorem not_mem_underWay {args : List String} {outcome : Outcome φ} {initial : TrainSimState φ} {fromUid : UID}
    (hOne : OneAtATime assemble fleet t (.spawn args))
    (hExecute : SpawnCommand.execute assemble fleet t.snapshot args = .ok outcome)
    (hRequest : outcome.request = some (.spawn initial fromUid)) : initial.trainUid ∉ t.underWay := by
  obtain ⟨hNone, hShows⟩ := hOne args outcome initial fromUid rfl hExecute hRequest
  obtain ⟨snap, initial', fromUid', hSnap, hSame, hAbsent, -⟩ := SpawnCommand.request_of_execute hExecute hRequest
  cases hSame
  intro hMem
  rcases List.mem_append.mp hMem with hMem | hMem
  · exact hNone hMem
  · obtain ⟨snap', hSnap', train, hTrain, hUid⟩ := hShows hMem
    cases hSnap.symm.trans hSnap'
    exact hAbsent train hTrain hUid

theorem underWay_step {e : TerminalEvent φ} (h : t.underWay.Nodup) (hOne : OneAtATime assemble fleet t e)
    (hStep : t.step assemble fleet dynamics e = some t') : t'.underWay.Nodup := by
  rw [List.nodup_iff_count_le_one] at h ⊢
  intro uid
  have hBefore := h uid
  rw [underWay_count] at hBefore ⊢
  cases e with
  | spawn args =>
    simp only [TerminalState.step] at hStep
    split at hStep
    · cases hStep
      exact hBefore
    · rename_i outcome hExecute
      cases hStep
      cases hRequest : outcome.request with
      | none => simpa [hRequest] using hBefore
      | some request =>
        obtain ⟨snap, initial, fromUid, -, rfl, -⟩ := SpawnCommand.request_of_execute hExecute hRequest
        have hNew := not_mem_underWay hOne hExecute hRequest
        rw [← List.count_eq_zero, underWay_count] at hNew
        simp only [Option.toList_some, spawnUids_append, List.count_append, spawnUids_spawn]
        by_cases hUid : initial.trainUid = uid
        · rw [hUid] at hNew ⊢
          rw [List.count_singleton_self]
          omega
        · have hOther : [initial.trainUid].count uid = 0 :=
            List.count_eq_zero_of_not_mem fun hMem => hUid (List.mem_singleton.mp hMem).symm
          omega
  | despawn args =>
    cases hStep
    cases hRequest : (DespawnCommand.execute fleet t.snapshot args : Outcome φ).request with
    | none => simpa using hBefore
    | some request =>
      obtain ⟨snap, trainUid, -, rfl, -⟩ := DespawnCommand.request_of_execute hRequest
      simpa [spawnUids_append, spawnUids_despawn] using hBefore
  | enqueue i =>
    obtain ⟨request, hRequest, rfl⟩ := Option.map_eq_some_iff.mp hStep
    rw [spawnUids_eraseIdx hRequest] at hBefore
    simp only [spawnUids_append, List.count_append]
    omega
  | publish =>
    cases hStep
    exact hBefore
  | engine a =>
    have hFewer := (trainUids_of_not_drain (by simp) hStep).count_le uid
    cases a with
    | fleetCommand cmd => cases hStep
    | command | onTick | tickTrains | advanceTick =>
      cases hStep
      dsimp only at hFewer ⊢
      omega
  | drain =>
    obtain ⟨cmd, rest, hQueue, rfl⟩ := step_drain hStep
    rw [hQueue, ← List.singleton_append, spawnUids_append, List.count_append] at hBefore
    dsimp only
    cases cmd with
    | spawn initial fromUid =>
      rw [spawnUids_spawn] at hBefore
      rcases @trainUids_attempt_spawn φ dynamics t.world initial fromUid with ⟨-, hUids⟩ | ⟨-, hUids⟩
      · rw [hUids, List.count_append]
        omega
      · rw [hUids]
        omega
    | despawn trainUid =>
      have hFewer := (@trainUids_attempt φ dynamics t.world (.fleetCommand (.despawn trainUid)) (by simp)).count_le uid
      omega

/-- As long as each consist has one spawn under way at a time, no two trains share a UID. -/
theorem uniqueTrains_of_oneAtATime {events : List (TerminalEvent φ)} (h : t.underWay.Nodup)
    (hOne : Guarded (TerminalState.step assemble fleet dynamics) (OneAtATime assemble fleet) t events) :
    Always (TerminalState.step assemble fleet dynamics) UniqueTrains t events :=
  (always_of_guarded (fun u : TerminalState φ => u.underWay.Nodup) (OneAtATime assemble fleet)
    (fun _ _ _ hu hGuard hStep => underWay_step hu hGuard hStep) h hOne).mono
    fun _ hu => hu.sublist (List.sublist_append_right _ _)

/-! ## A tick of the loop -/

def tickEvents (commands : List Command) (drained : Nat) : List (TerminalEvent φ) :=
  (commands.take maxCmdsPerTick).map (fun cmd => .engine (.command cmd)) ++ .engine .onTick ::
    (List.replicate drained .drain ++ [.engine .tickTrains, .engine .advanceTick, .publish])

theorem run_commands (t : TerminalState φ) (commands : List Command) :
    run (TerminalState.step assemble fleet dynamics) t (commands.map fun cmd => .engine (.command cmd)) =
      some { t with world := commands.foldl (fun w cmd => w.attempt dynamics (.command cmd)) t.world } := by
  induction commands generalizing t with
  | nil => rfl
  | cons cmd commands ih => exact run_cons.mpr ⟨_, rfl, ih _⟩

theorem run_drains (t : TerminalState φ) :
    run (TerminalState.step assemble fleet dynamics) t (List.replicate t.fleetCommands.length .drain) =
      some { t with
        world := t.fleetCommands.foldl (fun w cmd => w.attempt dynamics (.fleetCommand cmd)) t.world
        fleetCommands := [] } := by
  obtain ⟨world, queue, snapshot, decided⟩ := t
  induction queue generalizing world with
  | nil => rfl
  | cons cmd queue ih => exact run_cons.mpr ⟨_, rfl, ih _⟩

theorem attempt_tickTrains_of_nil (h : w.fleet = []) : w.attempt dynamics .tickTrains = w := by
  obtain ⟨state, control, entries⟩ := w
  cases h
  rfl

/-- A tick of the loop is a run of events: it drains what is queued and publishes what it ends in. -/
theorem run_tickEvents (t : TerminalState φ) (commands : List Command) :
    run (TerminalState.step assemble fleet dynamics) t (tickEvents commands t.fleetCommands.length) =
      some { t with
        world := t.world.doTick dynamics commands t.fleetCommands
        fleetCommands := []
        snapshot := some (publish dynamics (t.world.doTick dynamics commands t.fleetCommands).state
          (t.world.doTick dynamics commands t.fleetCommands).fleet) } := by
  have hTrains : ∀ u : World φ, (if u.fleet.isEmpty then u else u.attempt dynamics .tickTrains) =
      u.attempt dynamics .tickTrains := by
    intro u
    split
    · rename_i hEmpty
      exact (attempt_tickTrains_of_nil (List.isEmpty_iff.mp hEmpty)).symm
    · rfl
  refine run_append.mpr ⟨_, run_commands t _, run_cons.mpr ⟨_, rfl, run_append.mpr ⟨_, run_drains _, ?_⟩⟩⟩
  simp only [World.doTick, hTrains]
  rfl

end System

/-- Sections 1 and 2 in a row, with a boundary node at either end. -/
def twoEndedStation : ScenarioDir where
  path := "station"
  metaJson := { stationSid := "ST", controlSystem := "estw_ml8" }
  topologyJson :=
    { boundaryNodes := [91, 92].map fun n => { uid := .unsigned n }
      trackSections := [.between 1 91 2, .between 2 1 92] }

def oneConsist : FleetRegistry Unit where
  consists := ⟨[{ uid := ⟨51⟩, pid := "EN57-001", vehicleUids := [⟨61⟩], totalAxles := 12 }], List.nodup_singleton _⟩
  vehicles := fun uid => if uid = ⟨61⟩ then some () else none

def twoEnds : TerminalState Unit where
  world := World.start .ml8 twoEndedStation

/-- A tick, two terminal commands that queue their requests, and a tick that carries these out. -/
def twoSpawns : List (TerminalEvent Unit) :=
  tickEvents [] 0 ++ [.spawn ["51", "91"], .enqueue 0, .spawn ["EN57-001", "92"], .enqueue 0] ++ tickEvents [] 2

def oneSpawn : List (TerminalEvent Unit) := [.publish, .spawn ["51", "91"], .enqueue 0, .drain]

theorem uniqueTrains_twoEnds :
    Always (TerminalState.step (fun _ _ => ()) oneConsist World.idleTrains) UniqueTrains twoEnds oneSpawn ∧
      EachStep (TerminalState.step (fun _ _ => ()) oneConsist World.idleTrains) RemovesNamed twoEnds oneSpawn := by
  have hStart : UniqueTrains twoEnds := List.nodup_nil
  have hRun : (run (TerminalState.step (fun _ _ => ()) oneConsist World.idleTrains) twoEnds
      oneSpawn).isSome = true := by
    decide +kernel
  have hKeeps : ∀ (t : TerminalState Unit) e, e ≠ .drain → SpawnsNew t e :=
    fun t e hDrain initial fromUid rest hDrain' => absurd hDrain' hDrain
  obtain ⟨t, hRun⟩ := Option.isSome_iff_exists.mp hRun
  refine (uniqueTrains_iff hStart hRun).mpr ?_
  rw [oneSpawn]
  refine ⟨hKeeps _ _ (by simp), fun t₁ h₁ => ⟨hKeeps _ _ (by simp),
    fun t₂ h₂ => ⟨hKeeps _ _ (by simp), fun t₃ h₃ => ?_⟩⟩⟩
  refine ⟨?_, fun _ _ => trivial⟩
  have hNone := (trainUids_of_not_drain (by simp) h₃).trans
    ((trainUids_of_not_drain (by simp) h₂).trans (trainUids_of_not_drain (by simp) h₁))
  intro initial fromUid rest _ _ _ hMem
  cases hNone.subset hMem

/-- A consist spawned at either end between two ticks becomes two trains. -/
theorem consist_spawnedTwice : ¬ ∀ (t t' : TerminalState Unit) (events : List (TerminalEvent Unit)),
    t.world.Loaded → t.world.fleet = [] → t.fleetCommands = [] → t.decided = [] →
    run (TerminalState.step (fun _ _ => ()) oneConsist World.idleTrains) t events = some t' →
    Always (TerminalState.step (fun _ _ => ()) oneConsist World.idleTrains) UniqueTrains t events ∧
      EachStep (TerminalState.step (fun _ _ => ()) oneConsist World.idleTrains) RemovesNamed t events := by
  intro h
  have hTwice : (run (TerminalState.step (fun _ _ => ()) oneConsist World.idleTrains) twoEnds twoSpawns).any (fun t =>
        ¬ (trainUids t.world).Nodup) = true := by decide +kernel
  obtain ⟨t, hRun, hSame⟩ := (Option.any_eq_true _ _).mp hTwice
  have hAlways := (h twoEnds t _ ⟨[twoEndedStation], _, rfl⟩ rfl rfl rfl hRun).1
  exact of_decide_eq_true hSame (hAlways.invariant (fun _ _ _ _ hNext _ _ => hNext) List.nodup_nil hRun)

end Symulator.Server
