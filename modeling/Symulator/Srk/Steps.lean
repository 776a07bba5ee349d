import Symulator.Srk.RouteCommands

/-! # The steps of a run

Every step of a world is a command with one effect, a route request, a cancellation, a tick of the
control system, or leaves all devices alone. Invariants are proved along these cases.
-/

namespace Symulator.Srk

open Symulator.Library Symulator.Engine

set_option autoImplicit false

/-- The same switches, signals, derailers and routes on the same topology. -/
structure SameDevices (s t : EngineState) : Prop where
  switches : t.switches = s.switches
  signals : t.signals = s.signals
  derailers : t.derailers = s.derailers
  routes : t.routes = s.routes
  topology : t.topology = s.topology

inductive StepEffect {φ : Type} (w w' : World φ) : Action φ → Prop
  | command (cmd : Command) (hKind : isRouteCommand cmd = false)
      (hCheck : w.control.checkCommand w.state cmd = none)
      (hState : w'.state = applyAll w.state (w.control.changesOf w.state cmd)) :
      StepEffect w w' (.command cmd)
  | request (cmd : RequestRouteCmd) (rp : RoutePath) (hGranted : Granted w.state cmd rp)
      (hState : w'.state =
        applyAll w.state (executeRequestRoute w.state cmd w.state.currentTick kPolicies)) :
      StepEffect w w' (.command (.requestRoute cmd))
  | cancel (cmd : CancelRouteCmd) (route : RouteState) (hFind : w.state.findRoute cmd.routeUid = some route)
      (hState : w'.state = applyAll w.state (executeCancelRoute w.state cmd)) :
      StepEffect w w' (.command (.cancelRoute cmd))
  | tick (hState : w'.state =
        applyAll w.state (w.control.onTick w.state (w.state.currentTick + 1)).1) : StepEffect w w' .onTick
  | other (a : Action φ) (hCommand : ∀ cmd, a ≠ .command cmd) (hTick : a ≠ .onTick)
      (hSame : SameDevices w.state w'.state) : StepEffect w w' a

theorem findRoute_of_checkCancelRoute {s : EngineState} {cmd : CancelRouteCmd}
    (h : checkCancelRoute s cmd = none) :
    ∃ route, s.findRoute cmd.routeUid = some route ∧ (cmd.force = true ∨ route.trainEntered = false) := by
  unfold checkCancelRoute at h
  cases hFind : s.findRoute cmd.routeUid with
  | none =>
    simp only [hFind] at h
    cases h
  | some route =>
    simp only [hFind] at h
    refine ⟨route, rfl, ?_⟩
    cases hForce : cmd.force <;> cases hEntered : route.trainEntered <;> simp_all [violation]

theorem stepEffect_of_step {φ : Type} {dynamics : TrainDynamics φ} {w w' : World φ} {a : Action φ}
    (h : w.step dynamics a = some w') : StepEffect w w' a := by
  rcases World.step_cases h with ⟨cmd, rfl, hCheck, hState⟩ | ⟨rfl, hState⟩ | ⟨hCommand, hTick, t, hOcc, hState⟩
  · cases cmd
    case requestRoute cmd =>
      obtain ⟨rp, hGranted⟩ := exists_granted hCheck
      exact .request cmd rp hGranted hState
    case cancelRoute cmd =>
      obtain ⟨route, hFind, -⟩ := findRoute_of_checkCancelRoute hCheck
      exact .cancel cmd route hFind hState
    all_goals exact .command _ rfl hCheck hState
  · exact .tick hState
  · obtain ⟨hEq, hTopology⟩ := hOcc
    refine .other a hCommand hTick ?_
    rcases hState with hState | hState
    · rw [hState]
      constructor
      case topology => exact hTopology
      all_goals rw [hEq]
    · rw [hState]
      constructor
      case topology => exact hTopology
      all_goals
        rw [hEq]
        rfl

/-! ## What the check of a points command establishes -/

theorem pointsEffect_eq_switch {s : EngineState} {uid u : UID} {position p : SwitchPosition}
    {derailer : DerailerState} (h : pointsEffect s uid position derailer = .switch u p) :
    u = uid ∧ p = position ∧ ∃ sw, s.findSwitch uid = some sw := by
  unfold pointsEffect at h
  split at h
  · rename_i hSome
    obtain ⟨sw, hFind⟩ := Option.isSome_iff_exists.mp hSome
    cases h
    exact ⟨rfl, rfl, sw, hFind⟩
  · split at h <;> cases h

theorem pointsEffect_eq_derailer {s : EngineState} {uid u : UID} {position : SwitchPosition}
    {derailer d : DerailerState} (h : pointsEffect s uid position derailer = .derailer u d) :
    u = uid ∧ d = derailer ∧ s.findSwitch uid = none ∧ ∃ x, s.findDerailer uid = some x := by
  unfold pointsEffect at h
  split at h
  · cases h
  · rename_i hNone
    split at h
    · rename_i hSome
      obtain ⟨x, hFind⟩ := Option.isSome_iff_exists.mp hSome
      cases h
      exact ⟨rfl, rfl, Option.not_isSome_iff_eq_none.mp hNone, x, hFind⟩
    · cases h

theorem stopEffect_eq {s : EngineState} {uid : UID} {e : CommandEffect} (h : stopEffect s uid = e) :
    e = .quiet ∨ ∃ sig, s.findSignal uid = some sig ∧ e = .signal uid (stopAspect sig) := by
  unfold stopEffect at h
  split at h
  · exact Or.inl h.symm
  · rename_i sig hFind
    exact Or.inr ⟨sig, hFind, h.symm⟩

def isPointsCode : OperatorCommandCode → Bool
  | .zwp | .zwm | .zbp | .zbm => true
  | _ => false

def isMl8PointsCode : Ml8CommandCode → Bool
  | .pz | .dpz => true
  | _ => false

theorem operatorEffect_eq_switch {s : EngineState} {uid u : UID} {code : OperatorCommandCode}
    {position : SwitchPosition} (h : operatorEffect s uid code = .switch u position) :
    isPointsCode code = true ∧ u = uid ∧ ∃ sw, s.findSwitch uid = some sw := by
  cases code
  case zwp | zwm | zbp | zbm =>
    obtain ⟨hUid, -, hSwitch⟩ := pointsEffect_eq_switch h
    exact ⟨rfl, hUid, hSwitch⟩
  case ses => rcases stopEffect_eq h with hEq | ⟨_, _, hEq⟩ <;> cases hEq
  all_goals cases h

theorem ml8Effect_eq_switch {s : EngineState} {uid u : UID} {code : Ml8CommandCode}
    {position : SwitchPosition} (h : ml8Effect s uid code = .switch u position) :
    isMl8PointsCode code = true ∧ u = uid ∧ position = .divergent ∧ ∃ sw, s.findSwitch uid = some sw := by
  cases code
  case pz | dpz =>
    obtain ⟨hUid, hPosition, hSwitch⟩ := pointsEffect_eq_switch h
    exact ⟨rfl, hUid, hPosition, hSwitch⟩
  case stoj | stj | stop => rcases stopEffect_eq h with hEq | ⟨_, _, hEq⟩ <;> cases hEq
  case sz | nsz =>
    simp only [ml8Effect] at h
    split at h <;> cases h
  all_goals cases h

theorem checkOperatorSwitch_eq_none {s : EngineState} {u : UID} {sw : Switch} (hFind : s.findSwitch u = some sw) :
    checkOperatorSwitch s u = none ↔
      sw.occupancy = .free ∧ sw.lockedByRouteUid = none ∧ sw.position ≠ .moving := by
  simp only [checkOperatorSwitch, hFind, violation]
  cases sw.occupancy <;> cases sw.lockedByRouteUid <;> simp

theorem checkMl8Switch_eq_none {s : EngineState} {u : UID} {sw : Switch} (hFind : s.findSwitch u = some sw) :
    checkMl8Switch s u = none ↔ sw.occupancy = .free ∧ sw.position ≠ .moving := by
  simp only [checkMl8Switch, hFind, violation]
  cases sw.occupancy <;> simp

theorem checkSetSwitchPosition_eq_none {s : EngineState} {cmd : SetSwitchPositionCmd} :
    checkSetSwitchPosition s cmd = none ↔ ∃ sw, s.findSwitch cmd.uid = some sw ∧ sw.occupancy = .free ∧
      sw.lockedByRouteUid = none ∧ sw.position ≠ .moving ∧ sw.position ≠ cmd.position := by
  unfold checkSetSwitchPosition
  cases hFind : s.findSwitch cmd.uid with
  | none => simp [violation]
  | some sw =>
    by_cases hMoving : sw.position = .moving
    · simp [violation, hMoving]
    · cases hOcc : sw.occupancy <;> cases hLock : sw.lockedByRouteUid <;>
        simp [violation, hOcc, hLock, hMoving]

/-- An ML8 command that throws the switch `u` to its divergent leg. -/
def IsMl8Throw (sys : ControlSystem) (u : UID) (cmd : Command) : Prop :=
  sys.kind = .ml8 ∧ ∃ kind code, cmd = .ml8Command ⟨u, kind, code⟩ ∧ isMl8PointsCode code = true

/-- A switch that a command throws is free and at rest. It is unlocked as well, unless the command is
an ML8 one. -/
theorem checked_switch {sys : ControlSystem} {s : EngineState} {cmd : Command}
    (hCheck : sys.checkCommand s cmd = none) {u : UID} {position : SwitchPosition}
    (hEffect : sys.effectOf s cmd = .switch u position) :
    ∃ sw, s.findSwitch u = some sw ∧ sw.occupancy = .free ∧ sw.position ≠ .moving ∧
      (sw.lockedByRouteUid = none ∨ IsMl8Throw sys u cmd ∧ position = .divergent) := by
  cases cmd
  case setSwitchPosition cmd =>
    cases hEffect
    obtain ⟨sw, hFind, hOcc, hLock, hMoving, -⟩ := checkSetSwitchPosition_eq_none.mp hCheck
    exact ⟨sw, hFind, hOcc, hMoving, Or.inl hLock⟩
  case operatorCommand cmd =>
    obtain ⟨uid, kind, code⟩ := cmd
    obtain ⟨hCode, rfl, sw, hFind⟩ := operatorEffect_eq_switch hEffect
    simp only [ControlSystem.checkCommand, checkOperatorCommand] at hCheck
    split at hCheck
    · cases hCheck
    · have hSwitch : checkOperatorSwitch s u = none := by
        cases code <;> first | exact hCheck | cases hCode
      obtain ⟨hOcc, hLock, hMoving⟩ := (checkOperatorSwitch_eq_none hFind).mp hSwitch
      exact ⟨sw, hFind, hOcc, hMoving, Or.inl hLock⟩
  case ml8Command cmd =>
    obtain ⟨uid, kind, code⟩ := cmd
    obtain ⟨sysKind, throwTimeTicks, targets⟩ := sys
    cases sysKind with
    | ebilock => cases hEffect
    | ml8 =>
      obtain ⟨hCode, rfl, hPosition, sw, hFind⟩ := ml8Effect_eq_switch hEffect
      simp only [ControlSystem.checkCommand, checkMl8Command] at hCheck
      split at hCheck
      · cases hCheck
      · have hSwitch : checkMl8Switch s u = none := by
          cases code <;> first | exact hCheck | cases hCode
        obtain ⟨hOcc, hMoving⟩ := (checkMl8Switch_eq_none hFind).mp hSwitch
        exact ⟨sw, hFind, hOcc, hMoving, Or.inr ⟨⟨rfl, kind, code, rfl, hCode⟩, hPosition⟩⟩
  all_goals cases hEffect

theorem checked_derailer {sys : ControlSystem} {s : EngineState} {cmd : Command}
    (hCheck : sys.checkCommand s cmd = none) {u : UID} {state : DerailerState}
    (hEffect : sys.effectOf s cmd = .derailer u state) : (s.findDerailer u).isSome = true := by
  cases cmd
  case setDerailerPosition cmd =>
    cases hEffect
    cases hFind : s.findDerailer cmd.uid with
    | none =>
      simp only [ControlSystem.checkCommand, checkSetDerailerPosition, hFind] at hCheck
      cases hCheck
    | some d => rfl
  case operatorCommand cmd =>
    obtain ⟨uid, kind, code⟩ := cmd
    cases code
    case zwp | zwm | zbp | zbm =>
      obtain ⟨rfl, -, -, d, hFind⟩ := pointsEffect_eq_derailer hEffect
      rw [hFind]
      rfl
    case ses => rcases stopEffect_eq hEffect with hEq | ⟨_, _, hEq⟩ <;> cases hEq
    all_goals cases hEffect
  case ml8Command cmd =>
    obtain ⟨uid, kind, code⟩ := cmd
    obtain ⟨sysKind, throwTimeTicks, targets⟩ := sys
    cases sysKind with
    | ebilock => cases hEffect
    | ml8 =>
      cases code
      case pz | dpz =>
        obtain ⟨rfl, -, -, d, hFind⟩ := pointsEffect_eq_derailer hEffect
        rw [hFind]
        rfl
      case stoj | stj | stop => rcases stopEffect_eq hEffect with hEq | ⟨_, _, hEq⟩ <;> cases hEq
      case sz | nsz =>
        simp only [ControlSystem.effectOf, ml8Effect] at hEffect
        split at hEffect <;> cases hEffect
      all_goals cases hEffect
  all_goals cases hEffect

def thrownPosition (position : SwitchPosition) (throwTimeTicks : Int) : SwitchPosition :=
  if throwTimeTicks > 0 then .moving else position

/-! What an effect leaves of the values held for one device. -/

def CommandEffect.positionAfter (throwTimeTicks : Int) (u : UID) (held : SwitchPosition) :
    CommandEffect → SwitchPosition
  | .switch uid position => if u = uid then thrownPosition position throwTimeTicks else held
  | _ => held

def CommandEffect.signalLockAfter (u : UID) (held : Option UID) : CommandEffect → Option UID
  | .signal uid aspect => if u = uid ∧ aspect.isStop = true then none else held
  | _ => held

def CommandEffect.derailerStateAfter (u : UID) (held : DerailerState) : CommandEffect → DerailerState
  | .derailer uid state => if u = uid then state else held
  | _ => held

def CommandEffect.derailerLockAfter (u : UID) (held : Option UID) : CommandEffect → Option UID
  | .derailer uid state => if u = uid ∧ state = .locked then none else held
  | _ => held

/-- Of the changes of a command a register reads those of its effect, unless quiet ones write it. -/
theorem read_changesOf {β : Type} (r : Register EngineState DeviceStateChange apply β)
    (hQuiet : ∀ c, isQuiet c = true → r.write c = none) (sys : ControlSystem) (s : EngineState) {cmd : Command}
    (h : isRouteCommand cmd = false) : r.read (applyAll s (sys.changesOf s cmd)) =
      (r.read s).map (fun held => lastWrite r.write held ((sys.effectOf s cmd).changes sys.eea4ThrowTicks)) := by
  rw [(changesOf_effect sys s h).read r hQuiet, applyAll, Register.read_foldl]

theorem switchPosition_changesOf (sys : ControlSystem) (s : EngineState) {cmd : Command}
    (h : isRouteCommand cmd = false) (u : UID) :
    (switchPosition u).read (applyAll s (sys.changesOf s cmd)) = ((switchPosition u).read s).map (fun held =>
      (sys.effectOf s cmd).positionAfter sys.eea4ThrowTicks u held) := by
  rw [read_changesOf (switchPosition u) (fun _ => switchPositionWrite_of_isQuiet u) sys s h]
  congr 1
  funext b
  cases sys.effectOf s cmd with
  | switch uid position =>
    simp only [CommandEffect.changes, executeSetSwitchPosition, CommandEffect.positionAfter, thrownPosition]
    split <;> by_cases hu : u = uid <;> simp [switchPosition, switchPositionWrite, hu]
  | quiet => rfl
  | signal uid aspect => rfl
  | derailer uid state => rfl

theorem switchLock_changesOf (sys : ControlSystem) (s : EngineState) {cmd : Command}
    (h : isRouteCommand cmd = false) (u : UID) :
    (switchLock u).read (applyAll s (sys.changesOf s cmd)) = (switchLock u).read s := by
  rw [(changesOf_effect sys s h).read (switchLock u) (fun _ => switchLockWrite_of_isQuiet u)]
  apply Register.read_foldl_of_silent
  intro c hc
  cases hEffect : sys.effectOf s cmd with
  | switch uid position =>
    rw [hEffect] at hc
    simp only [CommandEffect.changes, executeSetSwitchPosition] at hc
    split at hc <;> rw [List.mem_singleton.mp hc] <;> rfl
  | quiet =>
    rw [hEffect] at hc
    cases hc
  | signal uid aspect =>
    rw [hEffect] at hc
    rw [List.mem_singleton.mp hc]
    rfl
  | derailer uid state =>
    rw [hEffect] at hc
    rw [List.mem_singleton.mp hc]
    rfl

theorem signalLock_changesOf (sys : ControlSystem) (s : EngineState) {cmd : Command}
    (h : isRouteCommand cmd = false) (u : UID) :
    (signalLock u).read (applyAll s (sys.changesOf s cmd)) = ((signalLock u).read s).map (fun held =>
      (sys.effectOf s cmd).signalLockAfter u held) := by
  rw [read_changesOf (signalLock u) (fun _ => signalLockWrite_of_isQuiet u) sys s h]
  congr 1
  funext b
  cases sys.effectOf s cmd with
  | signal uid aspect =>
    simp only [CommandEffect.changes, executeSetSignalAspect, CommandEffect.signalLockAfter, lastWrite_cons,
      lastWrite_nil, signalLock, signalLockWrite]
    by_cases hu : u = uid <;> cases aspect.isStop <;> simp [hu]
  | switch uid position =>
    simp only [CommandEffect.changes, executeSetSwitchPosition]
    split <;> rfl
  | quiet => rfl
  | derailer uid state => rfl

theorem derailerState_changesOf (sys : ControlSystem) (s : EngineState) {cmd : Command}
    (h : isRouteCommand cmd = false) (u : UID) :
    (derailerState u).read (applyAll s (sys.changesOf s cmd)) = ((derailerState u).read s).map (fun held =>
      (sys.effectOf s cmd).derailerStateAfter u held) := by
  rw [read_changesOf (derailerState u) (fun _ => derailerStateWrite_of_isQuiet u) sys s h]
  congr 1
  funext b
  cases sys.effectOf s cmd with
  | derailer uid state =>
    simp only [CommandEffect.changes, executeSetDerailerPosition, CommandEffect.derailerStateAfter,
      lastWrite_cons, lastWrite_nil, derailerState, derailerStateWrite]
    by_cases hu : u = uid <;> simp [hu]
  | switch uid position =>
    simp only [CommandEffect.changes, executeSetSwitchPosition]
    split <;> rfl
  | quiet => rfl
  | signal uid aspect => rfl

theorem derailerLock_changesOf (sys : ControlSystem) (s : EngineState) {cmd : Command}
    (h : isRouteCommand cmd = false) (u : UID) :
    (derailerLock u).read (applyAll s (sys.changesOf s cmd)) = ((derailerLock u).read s).map (fun held =>
      (sys.effectOf s cmd).derailerLockAfter u held) := by
  rw [read_changesOf (derailerLock u) (fun _ => derailerLockWrite_of_isQuiet u) sys s h]
  congr 1
  funext b
  cases sys.effectOf s cmd with
  | derailer uid state =>
    simp only [CommandEffect.changes, executeSetDerailerPosition, CommandEffect.derailerLockAfter,
      lastWrite_cons, lastWrite_nil, derailerLock, derailerLockWrite]
    by_cases hu : u = uid <;> cases state <;> simp [hu]
  | switch uid position =>
    simp only [CommandEffect.changes, executeSetSwitchPosition]
    split <;> rfl
  | quiet => rfl
  | signal uid aspect => rfl

end Symulator.Srk
