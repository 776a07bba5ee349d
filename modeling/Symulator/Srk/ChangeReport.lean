import Symulator.Engine.EngineSnapshot
import Symulator.Srk.EngineLoop

/-! # The change list of a tick

A tick hands its subscribers the changes of the commands, of the control system, of the fleet commands and
of the trains in one list. The first two are applied from the list; the fleet writes the occupancies itself
and lists what it wrote. A switch that a train forces open is listed and not written.
-/

namespace Symulator.Engine

open Symulator.Library

set_option autoImplicit false

/-! ## The trains' part -/

section Trains

variable {φ : Type} (dynamics : TrainDynamics φ)

/-- The switch a train forces open on its way over. -/
def trailedBy (state : EngineState) (entry : TrainEntry φ) : Option UID :=
  match trainMove dynamics state entry with
  | .crosses _ => (resolveNextSection state entry.sim.currentSectionUid entry.fromUid).trailedSwitchUid
  | _ => none

def Switch.trailed (sw : Switch) : Switch :=
  { sw with controlLost := true, position := .trailedDamaged, movingTicksRemaining := 0 }

def EngineState.markTrailed (s : EngineState) (uid : UID) : EngineState :=
  { s with switches := s.switches.modify uid Switch.trailed }

variable {dynamics}

theorem occupy_markTrailed (s : EngineState) (uid : UID) (entry : TrainEntry φ) (move : TrainMove) :
    occupy entry (s.markTrailed uid) move = (occupy entry s move).markTrailed uid := by
  cases move <;> rfl

theorem applyAll_trailed (s : EngineState) (uid : UID) :
    applyAll s [.switchControlStateChange uid true, .switchPositionChange uid .trailedDamaged .auto 0] =
      s.markTrailed uid :=
  congrArg (fun switches => { s with switches })
    (@KeyedMap.modify_modify UID Switch _ _ s.switches uid (fun sw => { sw with controlLost := true })
      (fun sw => { sw with position := .trailedDamaged, movingTicksRemaining := 0 }) (fun _ => rfl) (fun _ => rfl))

/-- The changes listed for a train do what its move does, and break the switch it forces. -/
theorem applyAll_tickTrain (state t : EngineState) (entry : TrainEntry φ) :
    applyAll t (tickTrain dynamics state entry).2.2 =
      (trailedBy dynamics state entry).toList.foldl EngineState.markTrailed
        (occupy entry t (trainMove dynamics state entry)) := by
  unfold trailedBy tickTrain trainMove
  cases hFind : state.findTrackSection entry.sim.currentSectionUid with
  | none => rfl
  | some sec =>
    dsimp only
    rcases @tick_ahead φ dynamics state entry sec with
      ⟨next, physics, overshootM, -, hInside, hTick⟩ | ⟨physics, hTick⟩
    · have hStays : ¬ ((resolveNextSection state entry.sim.currentSectionUid entry.fromUid).isBoundaryCrossing = true ∧
          ¬ entry.pendingBoundaryRemoval = true ∧ dynamics.positionM physics ≥ sec.lengthM - 1 / 1000) :=
        fun h => hInside h.1
      simp only [hTick, if_neg hStays, List.nil_append]
      cases (resolveNextSection state entry.sim.currentSectionUid entry.fromUid).trailedSwitchUid with
      | none => rfl
      | some uid =>
        rw [applyAll_append, applyAll_trailed]
        exact occupy_markTrailed t uid entry (.crosses next)
    · simp only [hTick]
      split
      · rfl
      · rfl

theorem trailedBy_congr {s t : EngineState} (h : SameTrack s t) (entry : TrainEntry φ) :
    trailedBy dynamics t entry = trailedBy dynamics s entry := by
  rw [trailedBy, trailedBy, (tickTrain_congr h entry).1, h.resolveNextSection_eq]

theorem foldl_occupy_markTrailed (s : EngineState) (uid : UID) (move : TrainEntry φ → TrainMove)
    (entries : List (TrainEntry φ)) : entries.foldl (fun t entry => occupy entry t (move entry)) (s.markTrailed uid) =
      (entries.foldl (fun t entry => occupy entry t (move entry)) s).markTrailed uid := by
  induction entries generalizing s with
  | nil => rfl
  | cons entry entries ih => rw [List.foldl_cons, occupy_markTrailed, ih, List.foldl_cons]

/-- The changes listed for the trains do what the trains wrote, and break every switch they force. -/
theorem applyAll_tickTrains {s state : EngineState} (h : SameTrack s state) (entries : List (TrainEntry φ))
    (t : EngineState) : applyAll t (tickTrains dynamics state entries).2.2 =
      (entries.filterMap (trailedBy dynamics s)).foldl EngineState.markTrailed
        (entries.foldl (fun t entry => occupy entry t (trainMove dynamics s entry)) t) := by
  induction entries generalizing state t with
  | nil => rfl
  | cons entry entries ih =>
    have hMove := (@tickTrain_congr φ dynamics s state h entry).1
    have hTrailed := @trailedBy_congr φ dynamics s state h entry
    have hTrack : SameTrack s (tickTrain dynamics state entry).1 := by
      rw [(tickTrain_spec state entry).1]
      exact h.trans (SameTrack.occupy state entry _)
    have hAppend : applyAll t (tickTrains dynamics state (entry :: entries)).2.2 =
        applyAll (applyAll t (tickTrain dynamics state entry).2.2)
          (tickTrains dynamics (tickTrain dynamics state entry).1 entries).2.2 := applyAll_append t _ _
    rw [hAppend, applyAll_tickTrain, ih hTrack, hMove, hTrailed, List.foldl_cons]
    cases hForced : trailedBy dynamics s entry with
    | none => rw [List.filterMap_cons_none hForced, Option.toList_none, List.foldl_nil]
    | some uid =>
      rw [List.filterMap_cons_some hForced, Option.toList_some, List.foldl_cons, List.foldl_nil, List.foldl_cons,
        foldl_occupy_markTrailed]

theorem foldl_markTrailed (s : EngineState) (uids : List UID) : uids.foldl EngineState.markTrailed s =
    { s with switches := uids.foldl (fun sws uid => sws.modify uid Switch.trailed) s.switches } := by
  induction uids generalizing s with
  | nil => rfl
  | cons uid uids ih =>
    rw [List.foldl_cons, ih, List.foldl_cons]
    rfl

end Trains

end Symulator.Engine

namespace Symulator.Srk

open Symulator.Library Symulator.Engine

/-- The changes the fleet lists for a command it has carried out. -/
def fleetReport {φ : Type} (state : EngineState) (entries : List (TrainEntry φ)) :
    FleetCommand φ → List DeviceStateChange
  | .spawn initial _ =>
    [.trackSectionOccupancyChange initial.currentSectionUid .occupied initial.totalAxles initial.trainUid]
  | .despawn trainUid =>
    match entries.find? (fun entry => entry.sim.trainUid = trainUid) with
    | none => []
    | some entry =>
      if (state.findTrackSection entry.sim.currentSectionUid).isSome then
        [.trackSectionOccupancyChange entry.sim.currentSectionUid .free 0 {}]
      else []

namespace World

variable {φ : Type} (dynamics : TrainDynamics φ)

/-- What an action adds to the change list of its tick when it is not refused. -/
def report (w : World φ) : Action φ → List DeviceStateChange
  | .command cmd => (w.control.executeCommand w.state cmd).1
  | .onTick => (w.control.onTick w.state (w.state.currentTick + 1)).1
  | .fleetCommand cmd => fleetReport w.state w.fleet cmd
  | .tickTrains => (tickAll dynamics w.state w.fleet).2.2
  | .advanceTick => []

def attemptListed (p : World φ × List DeviceStateChange) (a : Action φ) : World φ × List DeviceStateChange :=
  match p.1.step dynamics a with
  | none => p
  | some w => (w, p.2 ++ p.1.report dynamics a)

/-- The part of a tick before the trains have their turn, with the changes listed by then. -/
def beforeTrains (w : World φ) (queue : List Command) (fleetCommands : List (FleetCommand φ)) :
    World φ × List DeviceStateChange :=
  let p := (queue.take maxCmdsPerTick).foldl (fun p cmd => attemptListed dynamics p (.command cmd)) (w, [])
  let p := attemptListed dynamics p .onTick
  fleetCommands.foldl (fun p cmd => attemptListed dynamics p (.fleetCommand cmd)) p

/-- A tick with the change list passed on at its end. -/
def doTickListed (w : World φ) (queue : List Command) (fleetCommands : List (FleetCommand φ)) :
    World φ × List DeviceStateChange :=
  let p := w.beforeTrains dynamics queue fleetCommands
  let p := if p.1.fleet.isEmpty then p else attemptListed dynamics p .tickTrains
  attemptListed dynamics p .advanceTick

section Replay

variable {φ : Type} {dynamics : TrainDynamics φ}

/-- Apart from the trains' turn, what an action lists is what it does to the devices. -/
theorem applyAll_report {w w' : World φ} {a : Action φ} (hTrains : a ≠ .tickTrains) (hTick : a ≠ .advanceTick)
    (h : w.step dynamics a = some w') : applyAll w.state (w.report dynamics a) = w'.state := by
  cases a with
  | command cmd =>
    simp only [step] at h
    split at h
    · cases h
    · cases h
      rfl
  | onTick =>
    cases h
    rfl
  | fleetCommand cmd =>
    have hDone := (step_fleetCommand.mp h).1
    cases cmd with
    | spawn initial fromUid => exact (spawn_eq_ok.mp hDone).2.1.symm
    | despawn trainUid =>
      obtain ⟨entry, hFind, hState, -⟩ := despawn_eq_ok.mp hDone
      rw [hState]
      simp only [report, fleetReport, hFind]
      split
      · rfl
      · rename_i hNone
        rw [Option.not_isSome_iff_eq_none] at hNone
        exact (applyTrackSectionOccupancy_of_none hNone _ _).symm
  | tickTrains => exact absurd rfl hTrains
  | advanceTick => exact absurd rfl hTick

theorem attemptListed_replays {s : EngineState} {p : World φ × List DeviceStateChange} {a : Action φ}
    (hTrains : a ≠ .tickTrains) (hTick : a ≠ .advanceTick) (h : applyAll s p.2 = p.1.state) :
    applyAll s (attemptListed dynamics p a).2 = (attemptListed dynamics p a).1.state := by
  unfold attemptListed
  cases hStep : p.1.step dynamics a with
  | none => exact h
  | some w =>
    dsimp only
    rw [applyAll_append, h, applyAll_report hTrains hTick hStep]

def actionsBeforeTrains (queue : List Command) (fleetCommands : List (FleetCommand φ)) : List (Action φ) :=
  (queue.take maxCmdsPerTick).map .command ++ .onTick :: fleetCommands.map .fleetCommand

theorem beforeTrains_eq_foldl (w : World φ) (queue : List Command) (fleetCommands : List (FleetCommand φ)) :
    w.beforeTrains dynamics queue fleetCommands =
      (actionsBeforeTrains queue fleetCommands).foldl (attemptListed dynamics) (w, []) := by
  simp only [beforeTrains, actionsBeforeTrains, List.foldl_append, List.foldl_cons, List.foldl_map]

/-- Up to the trains' turn the list replays to the state the tick has reached. -/
theorem beforeTrains_replays (w : World φ) (queue : List Command) (fleetCommands : List (FleetCommand φ)) :
    applyAll w.state (w.beforeTrains dynamics queue fleetCommands).2 =
      (w.beforeTrains dynamics queue fleetCommands).1.state := by
  have hFold : ∀ (actions : List (Action φ)) p, (∀ a ∈ actions, a ≠ .tickTrains ∧ a ≠ .advanceTick) →
      applyAll w.state p.2 = p.1.state → applyAll w.state (actions.foldl (attemptListed dynamics) p).2 =
        (actions.foldl (attemptListed dynamics) p).1.state := by
    intro actions
    induction actions with
    | nil => exact fun p _ h => h
    | cons a actions ih =>
      intro p hActions h
      obtain ⟨hTrains, hTick⟩ := hActions a List.mem_cons_self
      exact ih _ (fun b hb => hActions b (List.mem_cons_of_mem _ hb)) (attemptListed_replays hTrains hTick h)
  rw [beforeTrains_eq_foldl]
  refine hFold _ (w, []) (fun a ha => ?_) rfl
  rcases List.mem_append.mp ha with ha | ha
  · obtain ⟨cmd, _, rfl⟩ := List.mem_map.mp ha
    simp
  · rcases List.mem_cons.mp ha with rfl | ha
    · simp
    · obtain ⟨cmd, _, rfl⟩ := List.mem_map.mp ha
      simp

theorem attemptListed_fst (p : World φ × List DeviceStateChange) (a : Action φ) :
    (attemptListed dynamics p a).1 = p.1.attempt dynamics a := by
  unfold attemptListed attempt
  cases p.1.step dynamics a <;> rfl

theorem doTickListed_fst (w : World φ) (queue : List Command) (fleetCommands : List (FleetCommand φ)) :
    (w.doTickListed dynamics queue fleetCommands).1 = w.doTick dynamics queue fleetCommands := by
  have hFold : ∀ {β : Type} (f : β → Action φ) (xs : List β) (p : World φ × List DeviceStateChange),
      (xs.foldl (fun p x => attemptListed dynamics p (f x)) p).1 =
        xs.foldl (fun w x => w.attempt dynamics (f x)) p.1 :=
    fun f xs p => (List.foldl_hom Prod.fst fun p x => (attemptListed_fst p (f x)).symm).symm
  simp only [doTickListed, beforeTrains, doTick, attemptListed_fst, apply_ite Prod.fst, hFold]

/-- A tick ends with the trains' turn, where their changes join the list, and the next number. -/
theorem doTickListed_eq (w : World φ) (queue : List Command) (fleetCommands : List (FleetCommand φ))
    {p : World φ × List DeviceStateChange} (hp : p = w.beforeTrains dynamics queue fleetCommands) :
    (w.doTickListed dynamics queue fleetCommands).2 = p.2 ++ (tickAll dynamics p.1.state p.1.fleet).2.2 ∧
      (w.doTickListed dynamics queue fleetCommands).1.state =
        (tickAll dynamics p.1.state p.1.fleet).1.setCurrentTick (p.1.state.currentTick + 1) := by
  subst hp
  unfold doTickListed
  generalize w.beforeTrains dynamics queue fleetCommands = p
  obtain ⟨⟨state, control, fleet⟩, listed⟩ := p
  cases fleet with
  | nil => simp [attemptListed, step, report, tickAll, tickTrains]
  | cons entry fleet =>
    have hTick : (tickAll dynamics state (entry :: fleet)).1.currentTick = state.currentTick := by
      rw [(tickAll_onlyOccupancy state (entry :: fleet)).1]
    simp [attemptListed, step, report, hTick]

/-- The whole list replays to the state the tick ends in, but for the switches the trains forced. -/
theorem applyAll_doTickListed (w : World φ) (queue : List Command) (fleetCommands : List (FleetCommand φ))
    {u : World φ} (hu : u = (w.beforeTrains dynamics queue fleetCommands).1) :
    applyAll w.state (w.doTickListed dynamics queue fleetCommands).2 =
        { (w.doTickListed dynamics queue fleetCommands).1.state with
          currentTick := u.state.currentTick
          switches := (u.fleet.filterMap (trailedBy dynamics u.state)).foldl
            (fun sws uid => sws.modify uid Switch.trailed) u.state.switches } ∧
      (w.doTickListed dynamics queue fleetCommands).1.state.switches = u.state.switches := by
  subst hu
  obtain ⟨hList, hState⟩ := @doTickListed_eq φ dynamics w queue fleetCommands _ rfl
  rw [hList, hState, applyAll_append, beforeTrains_replays]
  generalize (w.beforeTrains dynamics queue fleetCommands).1 = u
  have hRest := (@tickAll_onlyOccupancy φ dynamics u.state u.fleet).1
  have hSwitches : (tickAll dynamics u.state u.fleet).1.switches = u.state.switches := by rw [hRest]
  refine ⟨?_, hSwitches⟩
  calc
    _ = (u.fleet.filterMap (trailedBy dynamics u.state)).foldl EngineState.markTrailed
          (tickAll dynamics u.state u.fleet).1 := by
      rw [(tickAll_spec u.state u.fleet).1]
      exact applyAll_tickTrains (SameTrack.refl u.state) u.fleet u.state
    _ = _ := by
      rw [foldl_markTrailed, hRest]
      rfl

end Replay

/-- Every switch that a train is about to force stands forced already. -/
def ForcesNothingNew {φ : Type} (dynamics : TrainDynamics φ) (w : World φ) : Prop :=
  ∀ entry ∈ w.fleet, ∀ uid, trailedBy dynamics w.state entry = some uid →
    ∀ sw, w.state.findSwitch uid = some sw → sw.trailed = sw

/-- The change list passed on after a tick replays to the published devices when no train of the tick forces
a switch that is not broken already. -/
theorem changeList_replays_iff {φ : Type} {dynamics : TrainDynamics φ} (w : World φ) (queue : List Command)
    (fleetCommands : List (FleetCommand φ)) :
    (publish dynamics (w.doTick dynamics queue fleetCommands).state
        (w.doTick dynamics queue fleetCommands).fleet).Shows
      (applyAll w.state (w.doTickListed dynamics queue fleetCommands).2) ↔
    ForcesNothingNew dynamics (w.beforeTrains dynamics queue fleetCommands).1 := by
  obtain ⟨hReplay, hSwitches⟩ := @applyAll_doTickListed φ dynamics w queue fleetCommands _ rfl
  rw [← doTickListed_fst, hReplay]
  unfold ForcesNothingNew
  generalize (w.doTickListed dynamics queue fleetCommands).1 = w' at hSwitches ⊢
  generalize (w.beforeTrains dynamics queue fleetCommands).1 = u at hSwitches ⊢
  have hTwice : ∀ sw : Switch, sw.trailed.trailed = sw.trailed := fun _ => rfl
  have hMarks := @KeyedMap.foldl_modify_eq_iff UID Switch _ _ Switch.trailed (fun _ => rfl) hTwice
    (u.fleet.filterMap (trailedBy dynamics u.state)) u.state.switches
  constructor
  · intro h entry hEntry uid hTrailed sw hFind
    have hKept := hMarks.mp (h.switches.symm.trans hSwitches)
    exact hKept uid (List.mem_filterMap.mpr ⟨entry, hEntry, hTrailed⟩) sw hFind
  · intro h
    have hKept := hMarks.mpr fun uid hUid sw hFind => by
      obtain ⟨entry, hEntry, hTrailed⟩ := List.mem_filterMap.mp hUid
      exact h entry hEntry uid hTrailed sw hFind
    rw [hKept]
    constructor
    case switches => exact hSwitches
    all_goals rfl

def railForkStation : ScenarioDir :=
  .station ([(1, 91, 10), (2, 10, 92), (3, 10, 93)].map fun (uid, a, b) =>
    { TrackSectionDoc.between uid a b with lengthM := some 100 }) [.joining 10 1 2 3]
    [.governing 21 1, .governing 22 2, .governing 23 3]

def railFork : World (Rat × Rat) where
  state := loadedState railForkStation
  control := { kind := .ml8 }

/-- A train from the diverging section forces the switch that stands straight: the list breaks it, the
published state does not. -/
theorem forcedSwitch_listedOnly : ¬ ∀ (w : World (Rat × Rat)) (queue : List Command)
    (fleetCommands : List (FleetCommand (Rat × Rat))), w.Loaded →
    (publish steadyTrains (w.doTick steadyTrains queue fleetCommands).state
        (w.doTick steadyTrains queue fleetCommands).fleet).Shows
      (applyAll w.state (w.doTickListed steadyTrains queue fleetCommands).2) := by
  intro h
  let spawned : FleetCommand (Rat × Rat) :=
    .spawn { trainUid := ⟨51⟩, currentSectionUid := ⟨3⟩, physics := (90, 20), totalAxles := 4 } ⟨93⟩
  have hReplayed : ((applyAll railFork.state (railFork.doTickListed steadyTrains [] [spawned]).2).switches.find
      ⟨10⟩).map Switch.position = some .trailedDamaged := by decide +kernel
  have hPublished : (((railFork.doTick steadyTrains [] [spawned]).state.switches.find ⟨10⟩).map Switch.position) =
      some .straight := by decide +kernel
  have hShown := (h railFork [] [spawned] ⟨[railForkStation], _, rfl⟩).switches
  rw [← hShown] at hReplayed
  cases hReplayed.symm.trans hPublished

end World

end Symulator.Srk
