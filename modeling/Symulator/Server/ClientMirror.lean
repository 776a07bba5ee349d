import Symulator.Library.Runs
import Symulator.Server.SnapshotCursor

/-! # A client that follows the events

A client takes the state of the devices from a snapshot and from then on changes it by the events it is sent.
It reads each event as its table says: a device it knows takes the value of the event, a route is entered under
its UID or struck out.
-/

namespace Symulator.Server

open Symulator.Library Symulator.Engine Symulator.Srk

set_option autoImplicit false

/-- What a client knows of the devices and the routes, in the numbers of the wire. -/
@[ext]
structure ClientView where
  switches : UID → Option Nat
  signals : UID → Option Nat
  sections : UID → Option (Bool × Int)
  derailers : UID → Option Nat
  blocks : UID → Option (Nat × Nat)
  routes : UID → Option (UID × UID × List UID)

/-- The value under one UID changed, where there is one. -/
def revise {α : Type} (table : UID → Option α) (uid : UID) (f : α → α) : UID → Option α :=
  fun u => (table u).map fun v => if u = uid then f v else v

namespace ClientView

def observe (v : ClientView) : DomainEvent → ClientView
  | .switchPositionChanged uid newPosition _ =>
    { v with switches := revise v.switches uid fun _ => newPosition }
  | .signalAspectChanged uid newAspect _ => { v with signals := revise v.signals uid fun _ => newAspect }
  | .trackSectionOccupancyChanged uid occupied axleCount _ =>
    { v with sections := revise v.sections uid fun _ => (occupied, axleCount) }
  | .derailerPositionChanged uid newPosition _ =>
    { v with derailers := revise v.derailers uid fun _ => newPosition }
  | .blockSectionStateChanged uid newState =>
    { v with blocks := revise v.blocks uid fun b => (newState, b.2) }
  | .blockDirectionStateChanged uid newDirection _ =>
    { v with blocks := revise v.blocks uid fun b => (b.1, newDirection) }
  | .routeSet uid fromSignalUid toSignalUid sectionUids =>
    { v with routes := fun u => if u = uid then some (fromSignalUid, toSignalUid, sectionUids) else v.routes u }
  | .routeReleased routeUid _ => { v with routes := fun u => if u = routeUid then none else v.routes u }
  | .alarmRaised .. | .alarmCleared .. | .operatorCommandStateChanged .. | .ml8CommandStateChanged .. => v

def ofSnapshot (snap : Proto.Snapshot) : ClientView where
  switches uid := (snap.switches.find? fun r => r.uid = uid).map fun r => r.position
  signals uid := (snap.signals.find? fun r => r.uid = uid).map fun r => r.aspect
  sections uid := (snap.trackSections.find? fun r => r.uid = uid).map fun r => (r.occupied, r.axleCount)
  derailers uid := (snap.derailers.find? fun r => r.uid = uid).map fun r => r.position
  blocks uid := (snap.blockSections.find? fun r => r.uid = uid).map fun r => (r.state, r.blockDirection)
  routes uid := (snap.activeRoutes.find? fun r => r.uid = uid).map fun r =>
    (r.fromSignalUid, r.toSignalUid, r.sectionUids)

/-- What the server knows, in the same numbers. -/
def ofState (s : EngineState) : ClientView where
  switches uid := (s.findSwitch uid).map fun sw => sw.position.ctorIdx
  signals uid := (s.findSignal uid).map fun sig => sig.currentAspect.ctorIdx
  sections uid := (s.findTrackSection uid).map fun ts => (decide (ts.occupancy = .occupied), ts.axleCount)
  derailers uid := (s.findDerailer uid).map fun d => d.state.ctorIdx
  blocks uid := (s.findBlockSection uid).map fun bs => (toProtoBlockSection bs.state, bs.direction.ctorIdx)
  routes uid := (s.findRoute uid).map fun rt => (rt.fromSignalUid, rt.toSignalUid, rt.sectionUids)

/-- A client that has just read a snapshot knows what the server knew when it was taken. -/
theorem ofSnapshot_serialize {φ : Type} (dynamics : TrainDynamics φ) (s : EngineState) (entries : List (TrainEntry φ)) :
    ofSnapshot (serialize (publish dynamics s entries)) = ofState s := by
  have hFind : ∀ {α β γ : Type} [Keyed UID α] (m : KeyedMap UID α) (g : α → β) (key : β → UID) (f : β → γ),
      (∀ v, key (g v) = Keyed.key v) → ∀ uid,
        ((m.values.map g).find? fun r => key r = uid).map f = (m.find uid).map (f ∘ g) := by
    intro α β γ _ m g key f hKey uid
    rw [List.find?_map, Option.map_map, KeyedMap.find]
    simp only [Function.comp_def, hKey]
  ext1
  case switches => exact funext (hFind s.switches serializeSwitch Proto.SwitchState.uid Proto.SwitchState.position
    fun _ => rfl)
  case signals => exact funext (hFind s.signals serializeSignal Proto.SignalState.uid Proto.SignalState.aspect
    fun _ => rfl)
  case sections => exact funext (hFind s.trackSections (serializeTrackSection _) Proto.TrackSectionState.uid
    (fun r => (r.occupied, r.axleCount)) fun _ => rfl)
  case derailers => exact funext (hFind s.derailers serializeDerailer Proto.DerailerState.uid
    Proto.DerailerState.position fun _ => rfl)
  case blocks => exact funext (hFind s.blockSections serializeBlockSection Proto.BlockSectionSnapshotState.uid
    (fun r => (r.state, r.blockDirection)) fun _ => rfl)
  case routes => exact funext (hFind s.routes serializeRoute Proto.RouteState.uid
    (fun r => (r.fromSignalUid, r.toSignalUid, r.sectionUids)) fun _ => rfl)

/-! ## What the client does not see -/

section Unseen

variable (s : EngineState) (uid : UID)

theorem column_modify {α β : Type} [Keyed UID α] (m : KeyedMap UID α) (f : α → α)
    (hf : ∀ v, Keyed.key (f v) = Keyed.key v) (g : α → β) (hg : ∀ v, g (f v) = g v) :
    (fun u => ((m.modify uid f hf).find u).map g) = fun u => (m.find u).map g :=
  funext fun u => KeyedMap.map_find_modify m uid u f hf g hg

theorem column_revise {α β : Type} [Keyed UID α] (m : KeyedMap UID α) (f : α → α)
    (hf : ∀ v, Keyed.key (f v) = Keyed.key v) (g : α → β) (h : β → β) (hg : ∀ v, g (f v) = h (g v)) :
    (fun u => ((m.modify uid f hf).find u).map g) = revise (fun u => (m.find u).map g) uid h := by
  funext u
  rw [KeyedMap.find_modify, revise, Option.map_map, Option.map_map]
  congr 1
  funext v
  simp only [Function.comp_apply]
  split
  · exact hg v
  · rfl

theorem ofState_applySignalLock (routeUid : Option UID) : ofState (s.applySignalLock uid routeUid) = ofState s := by
  ext1
  case signals => exact column_modify uid s.signals _ (by intro _; rfl) _ (by intro _; rfl)
  all_goals rfl

theorem ofState_applyDerailerLock (routeUid : Option UID) : ofState (s.applyDerailerLock uid routeUid) = ofState s := by
  ext1
  case derailers => exact column_modify uid s.derailers _ (by intro _; rfl) _ (by intro _; rfl)
  all_goals rfl

theorem ofState_modifySwitches (f : Switch → Switch) (hf : ∀ sw, (f sw).uid = sw.uid)
    (h : ∀ sw, (f sw).position = sw.position) :
    ofState { s with switches := s.switches.modify uid f hf } = ofState s := by
  ext1
  case switches => exact column_modify uid s.switches _ hf _ fun sw => congrArg SwitchPosition.ctorIdx (h sw)
  all_goals rfl

theorem ofState_applyBlockSectionAxleCount (axleCount : Int) :
    ofState (s.applyBlockSectionAxleCount uid axleCount) = ofState s := by
  ext1
  case blocks => exact column_modify uid s.blockSections _ (by intro _; rfl) _ (by intro _; rfl)
  all_goals rfl

theorem ofState_modifyOperatorState (kind : OperatorTargetKind)
    (f : OperatorCommandRuntimeState → OperatorCommandRuntimeState) :
    ofState (s.modifyOperatorState uid kind f) = ofState s := by
  have hDerailers : ofState { s with derailers := s.derailers.modify uid fun x =>
      { x with operatorState := f x.operatorState } } = ofState s := by
    ext1
    case derailers => exact column_modify uid s.derailers _ (by intro _; rfl) _ (by intro _; rfl)
    all_goals rfl
  cases kind
  case signal =>
    ext1
    case signals => exact column_modify uid s.signals _ (by intro _; rfl) _ (by intro _; rfl)
    all_goals rfl
  case switch =>
    simp only [EngineState.modifyOperatorState]
    split
    · exact ofState_modifySwitches s uid _ (by intro _; rfl) (by intro _; rfl)
    · exact hDerailers
  case derailer => exact hDerailers
  case trackSection =>
    ext1
    case sections => exact column_modify uid s.trackSections _ (by intro _; rfl) _ (by intro _; rfl)
    all_goals rfl
  case blockSection =>
    ext1
    case blocks => exact column_modify uid s.blockSections _ (by intro _; rfl) _ (by intro _; rfl)
    all_goals rfl
  all_goals rfl

end Unseen

end ClientView

/-- The event of a change, if any, tells the client what the change does to the state it is made in. -/
def Told (s : EngineState) : DeviceStateChange → Prop
  | .switchLocked uid _ | .switchUnlocked uid _ => ∀ sw, s.findSwitch uid = some sw → sw.position = .straight
  | .axleCounterResetChange uid targetKind =>
    targetKind = .trackSection → ∀ ts, s.findTrackSection uid = some ts → ts.occupancy = .free ∧ ts.axleCount = 0
  | .routeAdded route => ∀ rt, s.findRoute route.uid = some rt →
    (rt.fromSignalUid, rt.toSignalUid, rt.sectionUids) = (route.fromSignalUid, route.toSignalUid, route.sectionUids)
  | _ => True

/-- The changes that have an event of their own, and those no client sees. -/
def isPlain : DeviceStateChange → Bool
  | .switchLocked .. | .switchUnlocked .. | .axleCounterResetChange .. | .routeAdded .. => false
  | _ => true

theorem told_of_isPlain {c : DeviceStateChange} (h : isPlain c = true) (s : EngineState) : Told s c := by
  cases c with
  | switchLocked | switchUnlocked | axleCounterResetChange | routeAdded => cases h
  | _ => trivial

theorem revise_eq_self {α : Type} {table : UID → Option α} {uid : UID} {f : α → α}
    (h : ∀ v, table uid = some v → f v = v) : revise table uid f = table := by
  funext u
  cases hFind : table u with
  | none => rw [revise, hFind, Option.map_none]
  | some v =>
    rw [revise, hFind, Option.map_some]
    split
    · rename_i hUid
      rw [h v (hUid ▸ hFind)]
    · rfl

theorem observe_straight {s : EngineState} {uid : UID}
    (h : ∀ sw, s.findSwitch uid = some sw → sw.position = .straight) :
    (ClientView.ofState s).observe (.switchPositionChanged uid 0 1) = ClientView.ofState s := by
  ext1
  case switches =>
    refine revise_eq_self fun code hCode => ?_
    obtain ⟨sw, hFind, rfl⟩ := Option.map_eq_some_iff.mp hCode
    rw [h sw hFind]
    rfl
  all_goals rfl

section Hear

variable (s : EngineState)

theorem hear_signalAspectChange (uid : UID) (aspect : SignalAspect) (cause : ChangeCause)
    (routeUid : Option UID) :
    hear makeEvent ClientView.observe (ClientView.ofState s) (.signalAspectChange uid aspect cause routeUid) =
      ClientView.ofState (apply s (.signalAspectChange uid aspect cause routeUid)) := by
  have hAspect : hear makeEvent ClientView.observe (ClientView.ofState s)
      (.signalAspectChange uid aspect cause routeUid) =
      ClientView.ofState (s.applySignalAspect uid aspect) := by
    ext1
    case signals => exact (ClientView.column_revise uid s.signals _ (by intro _; rfl) _ _ (by intro _; rfl)).symm
    all_goals rfl
  rw [hAspect]
  simp only [apply]
  split
  · exact (ClientView.ofState_applySignalLock _ uid _).symm
  · split
    · exact (ClientView.ofState_applySignalLock _ uid none).symm
    · rfl

theorem hear_derailerStateChange (uid : UID) (state : DerailerState) (cause : ChangeCause)
    (routeUid : Option UID) :
    hear makeEvent ClientView.observe (ClientView.ofState s) (.derailerStateChange uid state cause routeUid) =
      ClientView.ofState (apply s (.derailerStateChange uid state cause routeUid)) := by
  have hCode : toProtoDerailer state = state.ctorIdx := by cases state <;> rfl
  have hState : hear makeEvent ClientView.observe (ClientView.ofState s)
      (.derailerStateChange uid state cause routeUid) =
      ClientView.ofState (s.applyDerailerState uid state) := by
    ext1
    case derailers =>
      exact (ClientView.column_revise uid s.derailers _ (by intro _; rfl) _ _ (by intro _; exact hCode.symm)).symm
    all_goals rfl
  rw [hState]
  simp only [apply]
  split
  · exact (ClientView.ofState_applyDerailerLock _ uid _).symm
  · split
    · exact (ClientView.ofState_applyDerailerLock _ uid none).symm
    · rfl

/-- The client learns nothing of a reset, so the section must have been free. -/
theorem hear_axleCounterResetChange (uid : UID) (targetKind : OperatorTargetKind)
    (h : Told s (.axleCounterResetChange uid targetKind)) :
    hear makeEvent ClientView.observe (ClientView.ofState s) (.axleCounterResetChange uid targetKind) =
      ClientView.ofState (apply s (.axleCounterResetChange uid targetKind)) := by
  cases targetKind
  case switch => exact (ClientView.ofState_modifySwitches s uid _ (by intro _; rfl) (by intro _; rfl)).symm
  case trackSection =>
    ext1
    case sections =>
      refine Eq.symm ((ClientView.column_revise uid s.trackSections _ (by intro _; rfl) _ (fun _ => (false, 0))
        (by intro _; rfl)).trans (revise_eq_self fun v hv => ?_))
      obtain ⟨ts, hFind, rfl⟩ := Option.map_eq_some_iff.mp hv
      obtain ⟨hFree, hAxles⟩ := h rfl ts hFind
      rw [hFree, hAxles]
      rfl
    all_goals rfl
  case blockSection => exact (ClientView.ofState_applyBlockSectionAxleCount s uid 0).symm
  all_goals rfl

/-- The client overwrites what it knows of a route that the state keeps. -/
theorem hear_routeAdded (route : RouteState) (h : Told s (.routeAdded route)) :
    hear makeEvent ClientView.observe (ClientView.ofState s) (.routeAdded route) =
      ClientView.ofState (apply s (.routeAdded route)) := by
  ext1
  case routes =>
    funext u
    change (if u = route.uid then some (route.fromSignalUid, route.toSignalUid, route.sectionUids)
      else (s.findRoute u).map fun rt => (rt.fromSignalUid, rt.toSignalUid, rt.sectionUids)) =
        ((s.routes.emplace route).find u).map fun rt => (rt.fromSignalUid, rt.toSignalUid, rt.sectionUids)
    rw [KeyedMap.find_emplace]
    by_cases hUid : u = route.uid
    · subst hUid
      rw [if_pos rfl]
      cases hFind : s.routes.find route.uid with
      | none =>
        have hKey : Keyed.key route = route.uid := rfl
        rw [Option.none_or, if_pos hKey]
        rfl
      | some rt =>
        rw [Option.some_or, Option.map_some, h rt hFind]
    · rw [if_neg hUid, if_neg (fun hKey => hUid hKey.symm), Option.or_none]
      rfl
  all_goals rfl

theorem hear_routeRemoved (routeUid : UID) (reason : String) :
    hear makeEvent ClientView.observe (ClientView.ofState s) (.routeRemoved routeUid reason) =
      ClientView.ofState (apply s (.routeRemoved routeUid reason)) := by
  ext1
  case routes =>
    funext u
    change _ = ((s.routes.erase routeUid).find u).map _
    rw [KeyedMap.find_erase, apply_ite (Option.map _)]
    rfl
  all_goals rfl

end Hear

/-- A change that the client is told of moves its view with the state. -/
theorem hear_of_told (s : EngineState) (c : DeviceStateChange) (h : Told s c) :
    hear makeEvent ClientView.observe (ClientView.ofState s) c = ClientView.ofState (apply s c) := by
  cases c with
  | signalAspectChange uid aspect cause routeUid => exact hear_signalAspectChange s uid aspect cause routeUid
  | switchPositionChange uid position cause movingTicks =>
    ext1
    case switches => exact (ClientView.column_revise uid s.switches _ (by intro _; rfl) _ _ (by intro _; rfl)).symm
    all_goals rfl
  | switchLocked uid routeUid | switchUnlocked uid routeUid =>
    exact (observe_straight h).trans
      (ClientView.ofState_modifySwitches s uid _ (by intro _; rfl) (by intro _; rfl)).symm
  | derailerStateChange uid state cause routeUid => exact hear_derailerStateChange s uid state cause routeUid
  | blockSectionStateChange uid state =>
    ext1
    case blocks => exact (ClientView.column_revise uid s.blockSections _ (by intro _; rfl) _ _ (by intro _; rfl)).symm
    all_goals rfl
  | trackSectionOccupancyChange uid occ axleCount trainUid =>
    ext1
    case sections => exact (ClientView.column_revise uid s.trackSections _ (by intro _; rfl) _ _ (by intro _; rfl)).symm
    all_goals rfl
  | blockDirectionChange uid direction confirm =>
    ext1
    case blocks => exact (ClientView.column_revise uid s.blockSections _ (by intro _; rfl) _ _ (by intro _; rfl)).symm
    all_goals rfl
  | axleCounterResetChange uid targetKind => exact hear_axleCounterResetChange s uid targetKind h
  | operatorCommandStateChange uid targetKind code active =>
    exact (ClientView.ofState_modifyOperatorState s uid targetKind _).symm
  | ml8CommandStateChange uid targetKind code active =>
    exact (ClientView.ofState_modifyOperatorState s uid targetKind _).symm
  | routeAdded route => exact hear_routeAdded s route h
  | routeRemoved routeUid reason => exact hear_routeRemoved s routeUid reason
  | alarmRaised alarm => rfl
  | alarmCleared alarmUid => rfl
  | routeOverlapTimerStarted routeUid releaseTick =>
    ext1
    case routes => exact (ClientView.column_modify routeUid s.routes _ (by intro _; rfl) _ (by intro _; rfl)).symm
    all_goals rfl
  | emergencyRouteReleaseExecuted routeUid => rfl
  | levelCrossingStateChange crossingUid status => rfl
  | switchControlStateChange switchUid controlLost =>
    exact (ClientView.ofState_modifySwitches s switchUid _ (by intro _; rfl) (by intro _; rfl)).symm

/-! ## Runs -/

section Runs

variable {φ : Type} (dynamics : TrainDynamics φ)

/-- A tick of the server, and the client after the events of the tick. -/
def mirrorStep (p : World φ × ClientView) (input : TickInput φ) : Option (World φ × ClientView) :=
  let (w, changes) := p.1.doTickListed dynamics input.queue input.fleetCommands
  some (w, (changes.filterMap makeEvent).foldl ClientView.observe p.2)

/-- In this tick the client is told of every change what it does, and a switch that a train forces is known to
be broken. -/
structure TickTold (w : World φ) (input : TickInput φ) : Prop where
  changes : Guarded (fun s c => some (apply s c)) Told w.state
    (w.doTickListed dynamics input.queue input.fleetCommands).2
  forced : ∀ u, u = (w.beforeTrains dynamics input.queue input.fleetCommands).1 → ∀ entry ∈ u.fleet, ∀ uid,
    trailedBy dynamics u.state entry = some uid →
      ∀ sw, u.state.findSwitch uid = some sw → sw.position = .trailedDamaged

variable {dynamics}

/-- Breaking switches that are broken is nothing a client sees. -/
theorem ofState_trailed {s : EngineState} {uids : List UID} (tick : Nat)
    (h : ∀ uid ∈ uids, ∀ sw, s.findSwitch uid = some sw → sw.position = .trailedDamaged) :
    ClientView.ofState { s with
      currentTick := tick
      switches := uids.foldl (fun sws uid => sws.modify uid Switch.trailed) s.switches } = ClientView.ofState s := by
  ext1
  case switches =>
    funext u
    change ((uids.foldl (fun sws uid => sws.modify uid Switch.trailed) s.switches).find u).map _ = _
    rw [@KeyedMap.find_foldl_modify UID Switch _ _ Switch.trailed (fun _ => rfl) (fun _ => rfl)]
    change _ = (s.switches.find u).map _
    cases hFind : s.switches.find u with
    | none => rfl
    | some sw =>
      rw [Option.map_some, Option.map_some, Option.map_some]
      split
      · rename_i hForced
        rw [h u hForced sw hFind]
        rfl
      · rfl
  all_goals rfl

theorem mirrorStep_told {w w' : World φ} {v v' : ClientView} {input : TickInput φ} (h : TickTold dynamics w input)
    (hView : v = ClientView.ofState w.state) (hStep : mirrorStep dynamics (w, v) input = some (w', v')) :
    v' = ClientView.ofState w'.state := by
  have hNext : w' = (w.doTickListed dynamics input.queue input.fleetCommands).1 ∧
      v' = ((w.doTickListed dynamics input.queue input.fleetCommands).2.filterMap makeEvent).foldl
        ClientView.observe v := by
    cases hStep
    exact ⟨rfl, rfl⟩
  obtain ⟨hReplay, hSwitches⟩ := @World.applyAll_doTickListed φ dynamics w input.queue input.fleetCommands _ rfl
  rw [hNext.1, hNext.2, hView, view_of_told hear_of_told h.changes]
  change ClientView.ofState (applyAll w.state _) = _
  rw [hReplay, ← hSwitches]
  refine ofState_trailed _ fun uid hUid sw hFind => ?_
  obtain ⟨entry, hEntry, hTrailed⟩ := List.mem_filterMap.mp hUid
  rw [EngineState.findSwitch, hSwitches] at hFind
  exact h.forced _ rfl entry hEntry uid hTrailed sw hFind

end Runs

/-- A client that has read a snapshot and is told of every change what it does knows what the server knows after
every tick. -/
theorem client_follows {φ : Type} {dynamics : TrainDynamics φ} {w : World φ} {inputs : List (TickInput φ)}
    (h : Guarded (mirrorStep dynamics) (fun p input => TickTold dynamics p.1 input)
      (w, ClientView.ofSnapshot (serialize (publish dynamics w.state w.fleet))) inputs) :
    Always (mirrorStep dynamics) (fun p => p.2 = ClientView.ofState p.1.state)
      (w, ClientView.ofSnapshot (serialize (publish dynamics w.state w.fleet))) inputs := by
  refine always_of_guarded _ _ (fun p input p' hView hTold hStep => ?_)
    (ClientView.ofSnapshot_serialize dynamics w.state w.fleet) h
  exact mirrorStep_told hTold hView hStep

/-- A client hears of a signal put to stop and of a switch thrown. -/
theorem client_follows_fork : Always (mirrorStep World.idleTrains) (fun p => p.2 = ClientView.ofState p.1.state)
    (World.start .ml8 forkStation, ClientView.ofSnapshot (serialize
      (publish World.idleTrains (World.start .ml8 forkStation).state (World.start .ml8 forkStation).fleet)))
    [{ queue := [stopSignal, .setSwitchPosition { uid := ⟨10⟩, position := .divergent }] }] := by
  refine client_follows ⟨⟨?_, ?_⟩, fun _ _ => trivial⟩
  · refine guarded_of_forall_mem (fun c hc s => told_of_isPlain ?_ s) _
    revert c
    exact List.all_eq_true.mp (by decide +kernel)
  · rintro u rfl entry hEntry
    have hNone : (World.beforeTrains World.idleTrains (World.start .ml8 forkStation)
        [stopSignal, .setSwitchPosition { uid := ⟨10⟩, position := .divergent }] []).1.fleet = [] :=
      List.isEmpty_iff.mp (by decide +kernel)
    rw [hNone] at hEntry
    cases hEntry

/-- A route over the diverging leg of the switch leaves the client with the switch lying straight. -/
theorem lockedSwitch_misread : ¬ ∀ (w : World Unit) (inputs : List (TickInput Unit)), w.Loaded →
    Always (mirrorStep World.idleTrains) (fun p => p.2 = ClientView.ofState p.1.state)
      (w, ClientView.ofSnapshot (serialize (publish World.idleTrains w.state w.fleet))) inputs := by
  intro h
  let start := World.start .ml8 forkStation
  let request : TickInput Unit := { queue := [.requestRoute { fromSignalUid := ⟨21⟩, toSignalUid := ⟨23⟩ }] }
  have hAfter := ((h start [request] ⟨[forkStation], _, rfl⟩).2 _ rfl).head
  have hSwitch := congrFun (congrArg ClientView.switches hAfter) ⟨10⟩
  revert hSwitch
  decide +kernel

end Symulator.Server
