import Symulator.Trains.OneTrainEach

/-! # Routes and the trains on their way

A route is refused over an occupied section. That keeps it off the trains as long as every section with a train
on it shows occupied; a counter reset, a despawn or a train that quits the section can take the mark away.
-/

namespace Symulator.Interlocking

open Symulator.Library Symulator.Engine Symulator.Srk Symulator.Trains

set_option autoImplicit false

/-- The section shows occupied, if it exists. -/
def ShowsTaken (s : EngineState) (uid : UID) : Prop :=
  ∀ sec, s.findTrackSection uid = some sec → sec.occupancy = .occupied

def TrainsShown {φ : Type} (w : World φ) : Prop :=
  ∀ entry ∈ w.fleet, ShowsTaken w.state entry.sim.currentSectionUid

/-- The commands that free a section: the operator's and the ML8 reset of its axle counter. -/
def Resets (sys : ControlSystem) (uid : UID) : Command → Prop
  | .operatorCommand cmd => cmd.code = .slk ∧ cmd.targetKind = .trackSection ∧ cmd.targetUid = uid
  | .ml8Command cmd =>
    sys.kind = .ml8 ∧ cmd.code = .zerolo ∧ cmd.targetKind = .trackSection ∧ cmd.targetUid = uid
  | _ => False

def GovernsUnknown (s : EngineState) (signalUid uid : UID) : Prop :=
  (∃ sig, s.findSignal signalUid = some sig ∧ sig.governsSectionUid = uid) ∧ s.findTrackSection uid = none

section Guard

variable {φ : Type} (dynamics : TrainDynamics φ)

/-- The train stands on the section and its turn takes it away. -/
def Quits (state : EngineState) (entry : TrainEntry φ) (uid : UID) : Prop :=
  StandsOn entry uid ∧ ¬ EndsOn dynamics state entry uid

/-- Whoever quits the section has a later train that crosses into it. -/
def EnteredAfterQuits (state : EngineState) (entries : List (TrainEntry φ)) (uid : UID) : Prop :=
  ∀ before entry after, entries = before ++ entry :: after → Quits dynamics state entry uid →
    ∃ other ∈ after, trainMove dynamics state other = .crosses uid

/-- The action takes the mark of no section that a train keeps or gains, and asks for no route from a signal
that governs an unknown section on which a train is. -/
def KeepsTrainsShown (w : World φ) : Action φ → Prop
  | .command cmd =>
    (∀ entry ∈ w.fleet, ¬ Resets w.control entry.sim.currentSectionUid cmd) ∧
    ∀ request, cmd = .requestRoute request → ∀ entry ∈ w.fleet,
      ¬ GovernsUnknown w.state request.fromSignalUid entry.sim.currentSectionUid
  | .fleetCommand (.despawn trainUid) =>
    ∀ entry, w.fleet.find? (fun entry => entry.sim.trainUid = trainUid) = some entry →
      (w.state.findTrackSection entry.sim.currentSectionUid).isSome →
        ∀ other ∈ w.fleet.eraseP (fun entry => entry.sim.trainUid = trainUid),
        other.sim.currentSectionUid ≠ entry.sim.currentSectionUid
  | .tickTrains => ∀ uid, (w.state.findTrackSection uid).isSome →
    (∃ entry ∈ w.fleet, EndsOn dynamics w.state entry uid) → EnteredAfterQuits dynamics w.state w.fleet uid
  | .fleetCommand (.spawn ..) | .onTick | .advanceTick => True

/-- The route an accepted request adds is over no train. -/
def GrantsClearRoute (w : World φ) (a : Action φ) (_ : World φ) : Prop :=
  ∀ request, a = .command (.requestRoute request) →
    ∀ route, .routeAdded route ∈ w.control.changesOf w.state (.requestRoute request) →
      ∀ entry ∈ w.fleet, entry.sim.currentSectionUid ∉ route.sectionUids

end Guard

/-! ## Commands -/

theorem sectionOccupancyWrite_confirmBlockDirection (s : EngineState) (uid u : UID) :
    ∀ c ∈ confirmBlockDirection s uid, sectionOccupancyWrite u c = none := by
  unfold confirmBlockDirection
  split <;> simp [sectionOccupancyWrite]

theorem sectionOccupancyWrite_routeSide {cs : List DeviceStateChange} (h : ∀ c ∈ cs, isRouteSide c = true) (u : UID) :
    ∀ c ∈ cs, sectionOccupancyWrite u c = none :=
  fun c hc => sectionOccupancyWrite_of_isRouteSide u (h c hc)

theorem sectionOccupancyWrite_executeSetBlockDirection (s : EngineState) (cmd : SetBlockDirectionCmd) (u : UID) :
    ∀ c ∈ executeSetBlockDirection s cmd, sectionOccupancyWrite u c = none := by
  obtain ⟨uid, operation⟩ := cmd
  cases hFind : s.findBlockSection uid with
  | none => simp [executeSetBlockDirection, hFind]
  | some bs =>
    cases operation
    case blp =>
      simp only [executeSetBlockDirection, hFind]
      split <;> simp [sectionOccupancyWrite]
    all_goals simp [executeSetBlockDirection, hFind, sectionOccupancyWrite]

theorem sectionOccupancyWrite_reset {target uid : UID} {kind : OperatorTargetKind}
    (h : ¬ (kind = .trackSection ∧ target = uid)) :
    sectionOccupancyWrite uid (.axleCounterResetChange target kind) = none := by
  cases kind
  case trackSection => exact if_neg fun hUid => h ⟨rfl, hUid.symm⟩
  all_goals rfl

theorem sectionOccupancyWrite_executeOperatorCommand {s : EngineState} {cmd : OperatorCommandCmd} {uid : UID}
    (h : ¬ (cmd.code = .slk ∧ cmd.targetKind = .trackSection ∧ cmd.targetUid = uid)) (throwTimeTicks : Int) :
    ∀ c ∈ executeOperatorCommand s cmd throwTimeTicks, sectionOccupancyWrite uid c = none := by
  obtain ⟨target, kind, code⟩ := cmd
  refine List.forall_mem_cons.mpr ⟨rfl, ?_⟩
  cases code
  case slk =>
    refine List.forall_mem_cons.mpr ⟨sectionOccupancyWrite_reset fun hOn => h ⟨rfl, hOn⟩, ?_⟩
    simp [sectionOccupancyWrite]
  case ses => exact sectionOccupancyWrite_routeSide (isRouteSide_setSignalToStop s target) uid
  case zwp | zbp | zwm | zbm => exact sectionOccupancyWrite_routeSide (isRouteSide_setPoints s target _ _ _) uid
  case blp | poz => exact sectionOccupancyWrite_confirmBlockDirection s target uid
  all_goals simp [sectionOccupancyWrite]

theorem sectionOccupancyWrite_executeMl8Command {s : EngineState} {cmd : Ml8CommandCmd} {uid : UID}
    (h : ¬ (cmd.code = .zerolo ∧ cmd.targetKind = .trackSection ∧ cmd.targetUid = uid)) (throwTimeTicks : Int) :
    ∀ c ∈ executeMl8Command s cmd throwTimeTicks, sectionOccupancyWrite uid c = none := by
  obtain ⟨target, kind, code⟩ := cmd
  refine List.forall_mem_cons.mpr ⟨rfl, ?_⟩
  cases code
  case zerolo => exact List.forall_mem_singleton.mpr (sectionOccupancyWrite_reset fun hOn => h ⟨rfl, hOn⟩)
  case stoj | stj | stop => exact sectionOccupancyWrite_routeSide (isRouteSide_setSignalToStop s target) uid
  case sz | nsz =>
    dsimp only
    split <;> simp [sectionOccupancyWrite]
  case pz | dpz => exact sectionOccupancyWrite_routeSide (isRouteSide_setPoints s target _ _ _) uid
  case pzk => exact sectionOccupancyWrite_confirmBlockDirection s target uid
  all_goals simp [sectionOccupancyWrite]

/-- Only a reset changes what a section shows. -/
theorem sectionOccupancyWrite_changesOf {sys : ControlSystem} {s : EngineState} {cmd : Command} {uid : UID}
    (h : ¬ Resets sys uid cmd) : ∀ c ∈ sys.changesOf s cmd, sectionOccupancyWrite uid c = none := by
  cases cmd
  case requestRoute request => exact sectionOccupancyWrite_routeSide isRouteSide_request uid
  case cancelRoute cmd => exact sectionOccupancyWrite_routeSide isRouteSide_cancel uid
  case operatorCommand cmd => exact sectionOccupancyWrite_executeOperatorCommand h _
  case ml8Command cmd =>
    obtain ⟨kind, throwTimeTicks, targets⟩ := sys
    cases kind with
    | ebilock => simp [ControlSystem.changesOf]
    | ml8 => exact sectionOccupancyWrite_executeMl8Command (fun hOn => h ⟨rfl, hOn⟩) _
  case setSwitchPosition cmd =>
    exact sectionOccupancyWrite_routeSide (isRouteSide_effect (.switch cmd.uid cmd.position) _) uid
  case setSignalAspect cmd =>
    exact sectionOccupancyWrite_routeSide (isRouteSide_effect (.signal cmd.uid cmd.aspect) 0) uid
  case setDerailerPosition cmd =>
    exact sectionOccupancyWrite_routeSide (isRouteSide_effect (.derailer cmd.uid cmd.position) 0) uid
  case setBlockDirection cmd => exact sectionOccupancyWrite_executeSetBlockDirection s cmd uid
  all_goals simp [sectionOccupancyWrite, ControlSystem.changesOf, executeSetBlockSection, executeAcknowledgeAlarm,
    executeInitAxleCounterReset, executeResetAxleCounter]

/-! ## A tick of the trains -/

section Steps

variable {φ : Type} {dynamics : TrainDynamics φ} {w w' : World φ}

theorem ShowsTaken.congr {s t : EngineState} {uid : UID} (h : ShowsTaken s uid)
    (hRead : (sectionOccupancy uid).read t = (sectionOccupancy uid).read s) : ShowsTaken t uid := by
  intro sec hFind
  have hHeld : (sectionOccupancy uid).read s = some (sec.occupancy, sec.axleCount) := by
    rw [← hRead]
    simp [sectionOccupancy, hFind]
  obtain ⟨before, hBefore, hSame⟩ := Option.map_eq_some_iff.mp hHeld
  rw [← (Prod.mk.inj hSame).1]
  exact h before hBefore

theorem ShowsTaken.occupy {state t : EngineState} {entry : TrainEntry φ} {uid : UID} (h : ShowsTaken t uid)
    (hQuits : ¬ Quits dynamics state entry uid) :
    ShowsTaken (occupy entry t (trainMove dynamics state entry)) uid := by
  intro sec hFind
  rw [findTrackSection_occupy] at hFind
  obtain ⟨before, hBefore, rfl⟩ := Option.map_eq_some_iff.mp hFind
  have hKeeps : ∀ move, trainMove dynamics state entry = move → entry.sim.currentSectionUid = uid →
      move.destination entry.sim.currentSectionUid = uid ∧ move ≠ .leaves := by
    rintro move rfl hStands
    exact not_not.mp fun hAway => hQuits ⟨hStands, hAway⟩
  cases hMove : trainMove dynamics state entry with
  | stays => exact h before hBefore
  | leaves =>
    rw [TrainMove.mark, if_neg fun hStands => (hKeeps _ hMove hStands.symm).2 rfl]
    exact h before hBefore
  | crosses toUid =>
    rw [TrainMove.mark]
    split
    · rfl
    · rename_i hOther
      rw [if_neg fun hStands => hOther (hKeeps _ hMove hStands.symm).1.symm]
      exact h before hBefore

theorem showsTaken_of_crosses {state t : EngineState} {entry : TrainEntry φ} {uid : UID}
    (h : trainMove dynamics state entry = .crosses uid) :
    ShowsTaken (occupy entry t (trainMove dynamics state entry)) uid := by
  intro sec hFind
  rw [findTrackSection_occupy, h] at hFind
  obtain ⟨before, -, rfl⟩ := Option.map_eq_some_iff.mp hFind
  rw [TrainMove.mark, if_pos rfl]

/-- A section that shows occupied, or that a train is to cross into, is occupied when all have moved. -/
theorem showsTaken_foldl {state : EngineState} {uid : UID} {entries : List (TrainEntry φ)}
    (hAfter : EnteredAfterQuits dynamics state entries uid) (t : EngineState)
    (h : ShowsTaken t uid ∨ ∃ entry ∈ entries, trainMove dynamics state entry = .crosses uid) :
    ShowsTaken (entries.foldl (fun t entry => occupy entry t (trainMove dynamics state entry)) t) uid := by
  refine @foldl_of_mended _ _ (fun t entry => occupy entry t (trainMove dynamics state entry))
    (fun t => ShowsTaken t uid) (fun entry => Quits dynamics state entry uid)
    (fun entry => trainMove dynamics state entry = .crosses uid) ?_ ?_ entries hAfter t h
  · exact fun t entry hCrosses => showsTaken_of_crosses hCrosses
  · exact fun t entry hTaken hStays => hTaken.occupy hStays

theorem TrainsShown.tick (h : TrainsShown w) (hKeeps : KeepsTrainsShown dynamics w .tickTrains)
    (hStep : w.step dynamics .tickTrains = some w') : TrainsShown w' := by
  obtain ⟨hState, hFleet, hSame, -⟩ := World.step_tickTrains hStep
  intro moved hMoved
  rw [hFleet] at hMoved
  obtain ⟨hMem, hStaying⟩ := List.mem_filter.mp hMoved
  obtain ⟨entry, hEntry, rfl⟩ := List.mem_map.mp hMem
  obtain ⟨hTo, -, hGone⟩ := @ticked_sim φ dynamics w.state entry
  rw [hTo]
  have hEnds : EndsOn dynamics w.state entry
      ((trainMove dynamics w.state entry).destination entry.sim.currentSectionUid) := by
    refine ⟨rfl, fun hLeaves => ?_⟩
    simp [hGone, hLeaves] at hStaying
  cases hSome : (w.state.findTrackSection
      ((trainMove dynamics w.state entry).destination entry.sim.currentSectionUid)).isSome with
  | false =>
    intro sec hFind
    rw [← hSame.isSome_find, hFind] at hSome
    cases hSome
  | true =>
    rw [hState]
    refine showsTaken_foldl (hKeeps _ hSome ⟨entry, hEntry, hEnds⟩) _ ?_
    cases hMove : trainMove dynamics w.state entry with
    | stays => exact Or.inl (h entry hEntry)
    | leaves => exact absurd hMove hEnds.2
    | crosses toUid => exact Or.inr ⟨entry, hEntry, hMove⟩

/-! ## Every step -/

theorem TrainsShown.congr (h : TrainsShown w) (hFleet : w'.fleet = w.fleet)
    (hRead : ∀ entry ∈ w.fleet, (sectionOccupancy entry.sim.currentSectionUid).read w'.state =
      (sectionOccupancy entry.sim.currentSectionUid).read w.state) : TrainsShown w' := by
  intro entry hEntry
  rw [hFleet] at hEntry
  exact (h entry hEntry).congr (hRead entry hEntry)

theorem TrainsShown.spawn {initial : TrainSimState φ} {fromUid : UID} (h : TrainsShown w)
    (hSpawn : Engine.spawn w.state w.fleet initial fromUid = .ok (w'.state, w'.fleet)) : TrainsShown w' := by
  obtain ⟨-, hState, hFleet⟩ := spawn_eq_ok.mp hSpawn
  intro entry hEntry sec hFind
  have hHeld : (sectionOccupancy entry.sim.currentSectionUid).read w'.state = some (sec.occupancy, sec.axleCount) := by
    simp [sectionOccupancy, hFind]
  rw [hState] at hHeld
  rcases read_applyTrackSectionOccupancy hHeld with ⟨-, hTaken⟩ | ⟨hOther, hBefore⟩
  · exact (Prod.mk.inj hTaken).1
  · rw [hFleet] at hEntry
    rcases List.mem_append.mp hEntry with hEntry | hEntry
    · obtain ⟨before, hBefore, hSame⟩ := Option.map_eq_some_iff.mp hBefore
      rw [← (Prod.mk.inj hSame).1]
      exact h entry hEntry before hBefore
    · rw [List.mem_singleton.mp hEntry] at hOther
      exact absurd rfl hOther

theorem TrainsShown.despawn {trainUid : UID} (h : TrainsShown w)
    (hKeeps : KeepsTrainsShown dynamics w (.fleetCommand (.despawn trainUid)))
    (hDespawn : Engine.despawn w.state w.fleet trainUid = .ok (w'.state, w'.fleet)) : TrainsShown w' := by
  obtain ⟨gone, hGone, hState, hFleet⟩ := despawn_eq_ok.mp hDespawn
  intro entry hEntry sec hFind
  rw [hFleet] at hEntry
  rw [hState, findTrackSection_applyTrackSectionOccupancy] at hFind
  obtain ⟨before, hBefore, rfl⟩ := Option.map_eq_some_iff.mp hFind
  have hOther : entry.sim.currentSectionUid ≠ gone.sim.currentSectionUid := by
    intro hSame
    refine hKeeps gone hGone ?_ entry hEntry hSame
    rw [← hSame, hBefore]
    rfl
  rw [if_neg hOther]
  exact h entry (List.mem_of_mem_eraseP hEntry) before hBefore

theorem TrainsShown.step {a : Action φ} (h : TrainsShown w) (hKeeps : KeepsTrainsShown dynamics w a)
    (hStep : w.step dynamics a = some w') : TrainsShown w' := by
  cases a with
  | command cmd =>
    obtain ⟨-, rfl⟩ := World.step_command.mp hStep
    refine h.congr rfl fun entry hEntry => ?_
    exact (sectionOccupancy _).read_foldl_of_silent w.state (sectionOccupancyWrite_changesOf (hKeeps.1 entry hEntry))
  | fleetCommand cmd =>
    obtain ⟨hCommand, -⟩ := World.step_fleetCommand.mp hStep
    cases cmd with
    | spawn initial fromUid => exact h.spawn hCommand
    | despawn trainUid => exact h.despawn hKeeps hCommand
  | tickTrains => exact h.tick hKeeps hStep
  | onTick | advanceTick =>
    obtain ⟨hFleet, hRead⟩ := quiet_step (by exact trivial) (by simp) (by simp) hStep
    exact h.congr hFleet fun entry _ => hRead _

/-- While the sections show the trains, the request check keeps a route off them. -/
theorem TrainsShown.grantsClearRoute {a : Action φ} (h : TrainsShown w) (hKeeps : KeepsTrainsShown dynamics w a)
    (hStep : w.step dynamics a = some w') : GrantsClearRoute w a w' := by
  rintro request rfl route hAdded entry hEntry hOn
  rcases World.step_cases hStep with ⟨cmd, hCommand, hCheck, -⟩ | ⟨hTick, -⟩ | ⟨hNoCommand, -⟩
  · cases hCommand
    obtain ⟨rp, hGranted⟩ := exists_granted hCheck
    rw [(routeAdded_mem_request hGranted.found _).mp hAdded] at hOn
    cases hFind : w.state.findTrackSection entry.sim.currentSectionUid with
    | none =>
      rcases section_of_findRoutePath hGranted.found hOn with hGoverns | hSome
      · exact hKeeps.2 request rfl entry hEntry ⟨hGoverns, hFind⟩
      · rw [hFind] at hSome
        cases hSome
    | some sec =>
      have hCheckSection := hGranted.sections _ hOn
      simp only [checkPathSection, hFind, h entry hEntry sec hFind, if_true] at hCheckSection
      cases hCheckSection
  · cases hTick
  · exact absurd rfl (hNoCommand _)

/-- From a world without trains, no route is granted over a train as long as every step leaves the trains shown. -/
theorem grants_clear_route {w₀ : World φ} {actions : List (Action φ)} (hEmpty : w₀.fleet = [])
    (hKeeps : Guarded (World.step dynamics) (KeepsTrainsShown dynamics) w₀ actions) :
    EachStep (World.step dynamics) GrantsClearRoute w₀ actions := by
  have hShown : TrainsShown w₀ := by
    intro entry hEntry
    rw [hEmpty] at hEntry
    cases hEntry
  exact eachStep_of_guarded _ TrainsShown (KeepsTrainsShown dynamics)
    (fun w a w' h hKeeps hStep => ⟨h.grantsClearRoute hKeeps hStep, h.step hKeeps hStep⟩) hShown hKeeps

end Steps

/-- A train on the branch, and a route along the main line. -/
theorem grants_clear_route_fork : EachStep (World.step World.idleTrains) GrantsClearRoute
    (World.start .ml8 forkStation) [World.spawnAt 3 10, .command (.requestRoute ⟨⟨21⟩, ⟨22⟩⟩)] := by
  have hKnown : ((World.start .ml8 forkStation).step World.idleTrains (World.spawnAt 3 10)).all (fun w =>
      w.fleet.all fun entry => (w.state.findTrackSection entry.sim.currentSectionUid).isSome) = true := by
    decide +kernel
  refine grants_clear_route rfl ⟨trivial, fun w hStep => ⟨⟨fun _ _ h => h, ?_⟩, fun _ _ => trivial⟩⟩
  rintro request - entry hEntry ⟨-, hNone⟩
  have hSome := List.all_eq_true.mp ((Option.all_eq_true _ _).mp hKnown w hStep) entry hEntry
  rw [hNone] at hSome
  cases hSome

/-- A train stands in the first section, its axle counter is reset, and the route over it is granted. -/
theorem route_overTrain : ¬ ∀ (w₀ : World Unit) (actions : List (Action Unit)), w₀.Loaded → w₀.fleet = [] →
    EachStep (World.step World.idleTrains) GrantsClearRoute w₀ actions := by
  intro h
  let request : RequestRouteCmd := ⟨⟨21⟩, ⟨22⟩⟩
  let reset : Action Unit := .command (.operatorCommand ⟨⟨1⟩, .trackSection, .slk⟩)
  have hGranted : ((World.start .ml8 forkStation).step World.idleTrains (World.spawnAt 1 91)).any (fun u =>
      (u.step World.idleTrains reset).any fun v =>
        (v.step World.idleTrains (.command (.requestRoute request))).isSome &&
          v.fleet.any fun entry => (findRoutePath v.state request.fromSignalUid request.toSignalUid kPolicies).any
            fun rp => entry.sim.currentSectionUid ∈ rp.sectionUids) = true := by decide +kernel
  obtain ⟨u, hSpawn, hReset⟩ := (Option.any_eq_true _ _).mp hGranted
  obtain ⟨v, hReset, hRequest⟩ := (Option.any_eq_true _ _).mp hReset
  obtain ⟨hAccepted, hTrain⟩ := Bool.and_eq_true_iff.mp hRequest
  obtain ⟨w, hAccepted⟩ := Option.isSome_iff_exists.mp hAccepted
  obtain ⟨entry, hEntry, hPath⟩ := List.any_eq_true.mp hTrain
  obtain ⟨rp, hFound, hOn⟩ := (Option.any_eq_true _ _).mp hPath
  have hRun := h (World.start .ml8 forkStation) [World.spawnAt 1 91, reset, .command (.requestRoute request)]
    ⟨[forkStation], _, rfl⟩ rfl
  have hClear := ((((hRun u hSpawn).2 v hReset).2 w hAccepted).1) request rfl _
    ((routeAdded_mem_request hFound _).mpr rfl) entry hEntry
  exact hClear (of_decide_eq_true hOn)

end Symulator.Interlocking
