import Symulator.Srk.Steps

/-! # Operator inhibitions

An operator may stop a signal, clamp a switch, or close a section or a switch to traffic. The flags are
set and never asked for: a command honours them only where it has no occasion not to.
-/

namespace Symulator.Interlocking

open Symulator.Library Symulator.Engine Symulator.Srk

set_option autoImplicit false

section World

variable {φ : Type}

/-- The command gives no stopped signal a proceed aspect, moves no clamped switch and, where it requests a
route, includes nothing that is closed to traffic. -/
structure Honours (w : World φ) (cmd : Command) (w' : World φ) : Prop where
  stopped : ∀ u sig, w.state.findSignal u = some sig → sig.operatorState.stopped = true →
    ∀ aspect cause routeUid, .signalAspectChange u aspect cause routeUid ∈ w.control.changesOf w.state cmd →
      aspect.isStop = true
  clamped : ∀ u sw, w.state.findSwitch u = some sw → sw.operatorState.clamped = true →
    ∀ sw', w'.state.findSwitch u = some sw' → sw'.position = sw.position
  closed : ∀ route, .routeAdded route ∈ w.control.changesOf w.state cmd →
    (∀ u ∈ route.sectionUids, ∀ ts, w.state.findTrackSection u = some ts →
      ts.operatorState.trafficClosed = false) ∧
    ∀ u ∈ route.switchUids, ∀ sw, w.state.findSwitch u = some sw → sw.operatorState.trafficClosed = false

def InhibitionsHonoured (w : World φ) (a : Action φ) (w' : World φ) : Prop :=
  ∀ cmd, a = .command cmd → Honours w cmd w'

/-- A request starts at a signal that is not stopped, needs no clamped switch moved and asks for nothing
that is closed to traffic. -/
structure RequestUninhibited (s : EngineState) (cmd : RequestRouteCmd) (rp : RoutePath) : Prop where
  entry : ∀ sig, s.findSignal cmd.fromSignalUid = some sig → sig.operatorState.stopped = false
  switches : ∀ node ∈ switchNodes rp, ∀ sw, s.findSwitch node.uid = some sw →
    (sw.operatorState.clamped = true → sw.position = node.requiredPosition) ∧
      sw.operatorState.trafficClosed = false
  sections : ∀ u ∈ rp.sectionUids, ∀ ts, s.findTrackSection u = some ts → ts.operatorState.trafficClosed = false

/-- Any other command meets no inhibited device. -/
def EffectUninhibited (sys : ControlSystem) (s : EngineState) : CommandEffect → Prop
  | .signal u aspect => ∀ sig, s.findSignal u = some sig → sig.operatorState.stopped = true → aspect.isStop = true
  | .switch u position => ∀ sw, s.findSwitch u = some sw → sw.operatorState.clamped = true →
    thrownPosition position sys.eea4ThrowTicks = sw.position
  | _ => True

def InhibitionGuard (w : World φ) : Action φ → Prop
  | .command (.requestRoute cmd) =>
    ∀ rp, findRoutePath w.state cmd.fromSignalUid cmd.toSignalUid kPolicies = some rp →
      RequestUninhibited w.state cmd rp
  | .command (.cancelRoute _) => True
  | .command cmd => EffectUninhibited w.control w.state (w.control.effectOf w.state cmd)
  | _ => True

instance (s : EngineState) (cmd : RequestRouteCmd) (rp : RoutePath) : Decidable (RequestUninhibited s cmd rp) :=
  decidable_of_iff
    ((∀ sig ∈ s.findSignal cmd.fromSignalUid, sig.operatorState.stopped = false) ∧
      (∀ node ∈ switchNodes rp, ∀ sw ∈ s.findSwitch node.uid,
        (sw.operatorState.clamped = true → sw.position = node.requiredPosition) ∧
          sw.operatorState.trafficClosed = false) ∧
      ∀ u ∈ rp.sectionUids, ∀ ts ∈ s.findTrackSection u, ts.operatorState.trafficClosed = false)
    ⟨fun ⟨hEntry, hSwitches, hSections⟩ => ⟨hEntry, hSwitches, hSections⟩,
      fun h => ⟨h.entry, h.switches, h.sections⟩⟩

instance (sys : ControlSystem) (s : EngineState) : (effect : CommandEffect) → Decidable (EffectUninhibited sys s effect)
  | .signal u aspect => decidable_of_iff
      (∀ sig ∈ s.findSignal u, sig.operatorState.stopped = true → aspect.isStop = true) Iff.rfl
  | .switch u position => decidable_of_iff
      (∀ sw ∈ s.findSwitch u, sw.operatorState.clamped = true →
        thrownPosition position sys.eea4ThrowTicks = sw.position) Iff.rfl
  | .quiet | .derailer _ _ => .isTrue trivial

theorem inhibitionGuard_command {w : World φ} {cmd : Command} (h : isRouteCommand cmd = false) :
    InhibitionGuard w (.command cmd) ↔
      EffectUninhibited w.control w.state (w.control.effectOf w.state cmd) := by
  cases cmd
  case requestRoute | cancelRoute => cases h
  all_goals exact Iff.rfl

instance (w : World φ) (a : Action φ) : Decidable (InhibitionGuard w a) := by
  cases a with
  | command cmd =>
    cases cmd
    case requestRoute cmd =>
      exact decidable_of_iff (∀ rp ∈ findRoutePath w.state cmd.fromSignalUid cmd.toSignalUid kPolicies,
        RequestUninhibited w.state cmd rp) Iff.rfl
    case cancelRoute => exact .isTrue trivial
    all_goals exact decidable_of_iff _ (inhibitionGuard_command rfl).symm
  | onTick | fleetCommand | tickTrains | advanceTick => exact .isTrue trivial

end World

theorem mem_signalAspectChange {sys : ControlSystem} {s : EngineState} {cmd : Command}
    (h : isRouteCommand cmd = false) {u : UID} {aspect : SignalAspect} {cause : ChangeCause}
    {routeUid : Option UID} (hc : .signalAspectChange u aspect cause routeUid ∈ sys.changesOf s cmd) :
    sys.effectOf s cmd = .signal u aspect := by
  rcases mem_changesOf h hc with hQuiet | hEffect
  · cases hQuiet
  · cases hEff : sys.effectOf s cmd with
    | quiet =>
      rw [hEff] at hEffect
      cases hEffect
    | signal uid asp =>
      rw [hEff] at hEffect
      cases List.mem_singleton.mp hEffect
      rfl
    | switch uid position =>
      rw [hEff] at hEffect
      simp only [CommandEffect.changes, executeSetSwitchPosition] at hEffect
      split at hEffect <;> cases List.mem_singleton.mp hEffect
    | derailer uid state =>
      rw [hEff] at hEffect
      cases List.mem_singleton.mp hEffect

section Step

variable {φ : Type} {w w' : World φ}

theorem position_kept_iff {s : EngineState} {u : UID} {sw : Switch} (hFind : s.findSwitch u = some sw)
    (cs : List DeviceStateChange) :
    (∀ sw', (applyAll s cs).findSwitch u = some sw' → sw'.position = sw.position) ↔
      (switchPosition u).read (applyAll s cs) = some sw.position := by
  have hSome : ((applyAll s cs).findSwitch u).isSome = true := by
    rw [isSome_findSwitch (topology_applyAll s cs), hFind]
    rfl
  obtain ⟨sw', hFind'⟩ := Option.isSome_iff_exists.mp hSome
  rw [switchPosition_of_find hFind', hFind']
  simp

theorem honours_command {cmd : Command} (hKind : isRouteCommand cmd = false)
    (hState : w'.state = applyAll w.state (w.control.changesOf w.state cmd)) :
    Honours w cmd w' ↔ EffectUninhibited w.control w.state (w.control.effectOf w.state cmd) := by
  have hAdded : ∀ route, .routeAdded route ∉ w.control.changesOf w.state cmd := by
    intro route hc
    have hSilent := writesRoutes_changesOf hKind _ hc
    cases hSilent
  have hPosition : ∀ u sw, w.state.findSwitch u = some sw →
      ((∀ sw', w'.state.findSwitch u = some sw' → sw'.position = sw.position) ↔
        (w.control.effectOf w.state cmd).positionAfter w.control.eea4ThrowTicks u sw.position =
          sw.position) := by
    intro u sw hFind
    rw [hState, position_kept_iff hFind, switchPosition_changesOf _ _ hKind, switchPosition_of_find hFind]
    exact Option.some_inj
  constructor
  · intro h
    cases hEffect : w.control.effectOf w.state cmd with
    | quiet | derailer => trivial
    | signal u aspect =>
      intro sig hFind hStopped
      refine h.stopped u sig hFind hStopped aspect .command none (mem_changesOf_of_effect hKind ?_)
      rw [hEffect]
      exact List.mem_singleton.mpr rfl
    | switch u position =>
      intro sw hFind hClamped
      have hKept := (hPosition u sw hFind).mp (h.clamped u sw hFind hClamped)
      rw [hEffect] at hKept
      simpa [CommandEffect.positionAfter] using hKept
  · intro h
    refine ⟨fun u sig hFind hStopped aspect cause routeUid hc => ?_, fun u sw hFind hClamped => ?_,
      fun route hc => absurd hc (hAdded route)⟩
    · rw [mem_signalAspectChange hKind hc] at h
      exact h sig hFind hStopped
    · refine (hPosition u sw hFind).mpr ?_
      cases hEffect : w.control.effectOf w.state cmd with
      | quiet | signal | derailer => rfl
      | switch uid position =>
        rw [hEffect] at h
        dsimp only [CommandEffect.positionAfter]
        split
        · rename_i hUid
          subst hUid
          exact h sw hFind hClamped
        · rfl

theorem honours_request {cmd : RequestRouteCmd} {rp : RoutePath} (hGranted : Granted w.state cmd rp)
    (hState : w'.state = applyAll w.state (executeRequestRoute w.state cmd w.state.currentTick kPolicies)) :
    Honours w (.requestRoute cmd) w' ↔ RequestUninhibited w.state cmd rp := by
  have hFound := hGranted.found
  have hPosition : ∀ u sw, w.state.findSwitch u = some sw →
      (¬ (∀ sw', w'.state.findSwitch u = some sw' → sw'.position = sw.position) ↔
        ∃ node ∈ switchNodes rp, node.uid = u ∧ node.requiredPosition ≠ sw.position) := by
    intro u sw hFind
    rw [hState, position_kept_iff hFind]
    exact switchPosition_request_ne hFound _ (switchPosition_of_find hFind)
  constructor
  · intro h
    have hClosed := h.closed _ ((routeAdded_mem_request hFound _).mpr rfl)
    refine ⟨fun sig hFind => ?_, fun node hNode sw hFind => ⟨fun hClamped => ?_, ?_⟩, hClosed.1⟩
    · by_contra hStopped
      have hStop := h.stopped _ sig hFind (by simpa using hStopped) _ _ _
        ((signalAspectChange_mem_request hFound _ _).mpr ⟨rfl, rfl, rfl, rfl⟩)
      cases hStop
    · by_contra hNe
      exact (hPosition _ sw hFind).mpr ⟨node, hNode, rfl, Ne.symm hNe⟩ (h.clamped _ sw hFind hClamped)
    · exact hClosed.2 node.uid (mem_switchUids.mpr ⟨node, hNode, rfl⟩) sw hFind
  · intro h
    refine ⟨fun u sig hFind hStopped aspect cause routeUid hc => ?_, fun u sw hFind hClamped => ?_,
      fun route hc => ?_⟩
    · obtain ⟨rfl, -⟩ := (signalAspectChange_mem_request hFound _ _).mp hc
      rw [h.entry sig hFind] at hStopped
      cases hStopped
    · by_contra hNe
      obtain ⟨node, hNode, rfl, hPos⟩ := (hPosition u sw hFind).mp hNe
      exact hPos ((h.switches node hNode sw hFind).1 hClamped).symm
    · obtain rfl := (routeAdded_mem_request hFound _).mp hc
      refine ⟨h.sections, fun u hu sw hFind => ?_⟩
      obtain ⟨node, hNode, rfl⟩ := mem_switchUids.mp hu
      exact (h.switches node hNode sw hFind).2

/-- A cancellation stops its signal, moves no switch and adds no route. -/
theorem honours_cancel {cmd : CancelRouteCmd} {route : RouteState}
    (hFind : w.state.findRoute cmd.routeUid = some route)
    (hState : w'.state = applyAll w.state (executeCancelRoute w.state cmd)) : Honours w (.cancelRoute cmd) w' := by
  refine ⟨fun u sig _ _ aspect cause routeUid hc => ?_, fun u sw hSwitch _ => ?_, fun added hc => ?_⟩
  · have hAny := (exists_mem_cancel hFind (fun c => c = .signalAspectChange u aspect cause routeUid)
      (by simp)).mp ⟨_, hc, rfl⟩
    simp only [DeviceStateChange.signalAspectChange.injEq, reduceCtorEq, and_false, exists_false, or_false]
      at hAny
    rw [← hAny.2.1]
    rfl
  · rw [hState, position_kept_iff hSwitch, switchPosition_cancel, switchPosition_of_find hSwitch]
  · have hAny := (exists_mem_cancel hFind (fun c => c = .routeAdded added) (by simp)).mp ⟨_, hc, rfl⟩
    simp at hAny

theorem inhibitionsHonoured_step {dynamics : TrainDynamics φ} {a : Action φ}
    (hStep : w.step dynamics a = some w') : InhibitionsHonoured w a w' ↔ InhibitionGuard w a := by
  have hCommand : ∀ cmd, InhibitionsHonoured w (.command cmd) w' ↔ Honours w cmd w' := by
    intro cmd
    constructor
    · intro h
      exact h cmd rfl
    · rintro h _ ⟨⟩
      exact h
  cases stepEffect_of_step hStep with
  | command cmd hKind hCheck hState =>
    rw [hCommand, honours_command hKind hState, inhibitionGuard_command hKind]
  | request cmd rp hGranted hState =>
    rw [hCommand, honours_request hGranted hState]
    constructor
    · intro h rp' hFound
      cases hGranted.found.symm.trans hFound
      exact h
    · intro h
      exact h rp hGranted.found
  | cancel cmd route hFind hState => exact (hCommand _).trans (iff_of_true (honours_cancel hFind hState) trivial)
  | tick hState => exact iff_of_true (fun _ h => nomatch h) trivial
  | other _ hNot hTick hSame =>
    refine iff_of_true (fun cmd h => absurd h (hNot cmd)) ?_
    cases a <;> first | exact absurd rfl (hNot _) | trivial

end Step

/-- Every command of a run honours the inhibitions exactly when none of them has occasion not to. -/
theorem inhibitions_honoured_iff {φ : Type} {dynamics : TrainDynamics φ} {w₀ w : World φ}
    {actions : List (Action φ)} (hRun : run (World.step dynamics) w₀ actions = some w) :
    EachStep (World.step dynamics) InhibitionsHonoured w₀ actions ↔
      Guarded (World.step dynamics) InhibitionGuard w₀ actions :=
  eachStep_iff_guarded InhibitionsHonoured (fun _ => True) InhibitionGuard
    (fun _ _ _ _ hStep => inhibitionsHonoured_step hStep) (fun _ _ _ _ _ => trivial) trivial hRun

/-- Switch 10 is clamped and signal 23 is stopped. -/
def inhibitFork : List (Action Unit) :=
  [.command (.operatorCommand ⟨⟨10⟩, .switch, .zws⟩), .command (.operatorCommand ⟨⟨23⟩, .signal, .ses⟩)]

/-- A route over the clamped switch as it lies, from a signal that is not stopped. -/
theorem inhibitions_honoured_fork : ∃ w sw sig, run (World.step World.idleTrains) (World.start .ml8 forkStation)
      (inhibitFork ++ [.command (.requestRoute ⟨⟨21⟩, ⟨22⟩⟩)]) = some w ∧
    w.state.findSwitch ⟨10⟩ = some sw ∧ sw.operatorState.clamped = true ∧ sw.lockedByRouteUid ≠ none ∧
    w.state.findSignal ⟨23⟩ = some sig ∧ sig.operatorState.stopped = true ∧
    EachStep (World.step World.idleTrains) InhibitionsHonoured (World.start .ml8 forkStation)
      (inhibitFork ++ [.command (.requestRoute ⟨⟨21⟩, ⟨22⟩⟩)]) := by
  obtain ⟨w, hRun, -, hTest⟩ := World.exists_reachable .ml8 forkStation
    (inhibitFork ++ [.command (.requestRoute ⟨⟨21⟩, ⟨22⟩⟩)])
    (fun w => (w.state.findSwitch ⟨10⟩).any (fun sw => sw.operatorState.clamped ∧ sw.lockedByRouteUid ≠ none) &&
      (w.state.findSignal ⟨23⟩).any fun sig => sig.operatorState.stopped)
    ⟨[forkStation], _, rfl⟩ (by decide +kernel)
  obtain ⟨hSwitch, hSignal⟩ := Bool.and_eq_true_iff.mp hTest
  obtain ⟨sw, hSwitch, hHeld⟩ := (Option.any_eq_true _ _).mp hSwitch
  obtain ⟨sig, hSignal, hStopped⟩ := (Option.any_eq_true _ _).mp hSignal
  obtain ⟨hClamped, hLocked⟩ := of_decide_eq_true hHeld
  exact ⟨w, sw, sig, hRun, hSwitch, hClamped, hLocked, hSignal, hStopped,
    (inhibitions_honoured_iff hRun).mpr (by decide +kernel)⟩

def clearsSignal (u : UID) : DeviceStateChange → Bool
  | .signalAspectChange uid aspect _ _ => decide (uid = u ∧ aspect.isStop = false)
  | _ => false

/-- A stopped signal is cleared for a route. -/
theorem stoppedSignal_cleared : ¬ ∀ w : World Unit, w.Reachable World.idleTrains → ∀ a w',
    w.step World.idleTrains a = some w' → InhibitionsHonoured w a w' := by
  intro h
  let cmd : Command := .requestRoute ⟨⟨21⟩, ⟨22⟩⟩
  obtain ⟨w, -, hReach, hTest⟩ := World.exists_reachable .ml8 forkStation
    [.command (.operatorCommand ⟨⟨21⟩, .signal, .ses⟩)]
    (fun w => (w.state.findSignal ⟨21⟩).any (fun sig => sig.operatorState.stopped) = true ∧
      (w.step World.idleTrains (.command cmd)).isSome = true ∧
      (w.control.changesOf w.state cmd).any (clearsSignal ⟨21⟩) = true)
    ⟨[forkStation], _, rfl⟩ (by decide +kernel)
  obtain ⟨hSignal, hAccepted, hChanges⟩ := of_decide_eq_true hTest
  obtain ⟨sig, hFind, hStopped⟩ := (Option.any_eq_true _ _).mp hSignal
  obtain ⟨w', hStep⟩ := Option.isSome_iff_exists.mp hAccepted
  obtain ⟨c, hc, hProceed⟩ := List.any_eq_true.mp hChanges
  cases c
  case signalAspectChange u aspect cause routeUid =>
    obtain ⟨rfl, hAspect⟩ := of_decide_eq_true hProceed
    have hStop := (h w hReach (.command cmd) w' hStep cmd rfl).stopped ⟨21⟩ sig hFind hStopped aspect cause
      routeUid hc
    rw [hAspect] at hStop
    cases hStop
  all_goals cases hProceed

end Symulator.Interlocking
