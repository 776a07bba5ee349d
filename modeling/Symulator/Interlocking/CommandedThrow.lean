import Symulator.Srk.Steps

/-! # Throws that are commanded

A throw sets the switch in motion, and the ticks of the control system count its motion down and land it
at the target on record. The operator commands that throw a switch put no target on record.
-/

namespace Symulator.Interlocking

open Symulator.Library Symulator.Engine Symulator.Srk

set_option autoImplicit false

/-- The switch or derailer that a points command names, and the position it asks of a switch. -/
def throwOf : Command → Option (UID × SwitchPosition)
  | .setSwitchPosition cmd => some (cmd.uid, cmd.position)
  | .operatorCommand cmd =>
    match cmd.code with
    | .zwp | .zbp => some (cmd.targetUid, .straight)
    | .zwm | .zbm => some (cmd.targetUid, .divergent)
    | _ => none
  | .ml8Command cmd =>
    match cmd.code with
    | .pz | .dpz => some (cmd.targetUid, .divergent)
    | _ => none
  | _ => none

/-- A command that is not about the switch `u` writes nothing to its machine. -/
def SparesSwitch {φ : Type} (u : UID) (w : World φ) : Action φ → Prop
  | .command cmd => ∀ c ∈ w.control.changesOf w.state cmd, switchMachineWrite u c = none
  | _ => True

def isOnTick {φ : Type} : Action φ → Bool
  | .onTick => true
  | _ => false

def onTicks {φ : Type} (actions : List (Action φ)) : Nat := actions.countP isOnTick

/-- Through any run that spares the switch `u` it moves, one tick less remaining after each, and after `n`
ticks it stands at `p`. -/
def LandsAt {φ : Type} (dynamics : TrainDynamics φ) (u : UID) (p : SwitchPosition) (n : Int) (w : World φ) : Prop :=
  ∀ actions w', Guarded (World.step dynamics) (SparesSwitch u) w actions →
    run (World.step dynamics) w actions = some w' →
      ((onTicks actions : Int) < n → ∃ sw, w'.state.findSwitch u = some sw ∧
        sw.position = .moving ∧ sw.movingTicksRemaining = n - onTicks actions) ∧
      ((onTicks actions : Int) = n → ∃ sw, w'.state.findSwitch u = some sw ∧ sw.position = p)

/-- The target that a tick reads for the switch `u` once the command is executed. -/
def TargetOnRecord (sys : ControlSystem) (u : UID) (p : SwitchPosition) : Command → Prop
  | .operatorCommand _ => (sys.pendingTargets u).getD .straight = p
  | _ => True

/-! ## One tick -/

/-- What a tick makes of a machine whose recorded target is `target`. -/
def machineAfterTick (target : Option SwitchPosition) (machine : SwitchPosition × Int) : SwitchPosition × Int :=
  if machine.1 = .moving then
    if machine.2 ≤ 1 then (target.getD .straight, 0) else (.moving, machine.2 - 1)
  else machine

theorem switchMachineWrite_tickSwitchMachine {targets : PendingTargets} {sw : Switch} {u : UID} (h : sw.uid ≠ u) :
    ∀ c ∈ (tickSwitchMachine targets sw).1, switchMachineWrite u c = none := by
  intro c hc
  obtain ⟨-, position, ticks, rfl⟩ := mem_tickSwitchMachine hc
  exact if_neg (Ne.symm h)

theorem targets_tickSwitchMachine {targets : PendingTargets} {sw : Switch} {u : UID} (h : sw.uid ≠ u) :
    (tickSwitchMachine targets sw).2 u = targets u := by
  unfold tickSwitchMachine
  split
  · exact if_neg (Ne.symm h)
  · split
    · exact if_neg (Ne.symm h)
    · rfl

theorem machine_tickSwitchMachine {targets : PendingTargets} {sw : Switch} :
    lastWrite (switchMachineWrite sw.uid) (sw.position, sw.movingTicksRemaining) (tickSwitchMachine targets sw).1 =
      machineAfterTick (targets sw.uid) (sw.position, sw.movingTicksRemaining) := by
  by_cases hMoving : sw.position = .moving
  · by_cases hLast : sw.movingTicksRemaining ≤ 1
    · have hLands : sw.movingTicksRemaining ≤ 0 ∨ sw.movingTicksRemaining - 1 = 0 := by omega
      simp [tickSwitchMachine, machineAfterTick, hMoving, hLast, hLands, switchMachineWrite]
    · have hMoves : ¬ (sw.movingTicksRemaining ≤ 0 ∨ sw.movingTicksRemaining - 1 = 0) := by omega
      simp [tickSwitchMachine, machineAfterTick, hMoving, hLast, hMoves, switchMachineWrite]
  · simp [tickSwitchMachine, machineAfterTick, hMoving]

theorem target_tickSwitchMachine {targets : PendingTargets} {sw : Switch} (hMoving : sw.position = .moving)
    (hMore : 1 < sw.movingTicksRemaining) : (tickSwitchMachine targets sw).2 sw.uid = targets sw.uid := by
  have hMoves : ¬ (sw.movingTicksRemaining ≤ 0 ∨ sw.movingTicksRemaining - 1 = 0) := by omega
  simp [tickSwitchMachine, hMoving, hMoves]

def machinesStep (acc : List DeviceStateChange × PendingTargets) (sw : Switch) :
    List DeviceStateChange × PendingTargets :=
  (acc.1 ++ (tickSwitchMachine acc.2 sw).1, (tickSwitchMachine acc.2 sw).2)

/-- Machines of other switches write nothing to the machine of `u` and leave its target. -/
theorem foldl_machinesStep_of_ne {u : UID} {sws : List Switch} (h : ∀ sw ∈ sws, sw.uid ≠ u)
    (acc : List DeviceStateChange × PendingTargets) (machine : SwitchPosition × Int) :
    lastWrite (switchMachineWrite u) machine (sws.foldl machinesStep acc).1 =
        lastWrite (switchMachineWrite u) machine acc.1 ∧
      (sws.foldl machinesStep acc).2 u = acc.2 u := by
  induction sws generalizing acc with
  | nil => exact ⟨rfl, rfl⟩
  | cons sw sws ih =>
    have hNe := h sw List.mem_cons_self
    obtain ⟨hMachine, hTarget⟩ := ih (fun sw' hsw' => h sw' (List.mem_cons_of_mem _ hsw')) (machinesStep acc sw)
    rw [List.foldl_cons, hMachine, hTarget, machinesStep]
    refine ⟨?_, targets_tickSwitchMachine hNe⟩
    rw [lastWrite_append, lastWrite_of_silent (switchMachineWrite_tickSwitchMachine hNe)]

theorem tickSwitchMachines_machine {s : EngineState} {targets : PendingTargets} {u : UID} {sw : Switch}
    (hFind : s.findSwitch u = some sw) :
    lastWrite (switchMachineWrite u) (sw.position, sw.movingTicksRemaining) (tickSwitchMachines s targets).1 =
        machineAfterTick (targets u) (sw.position, sw.movingTicksRemaining) ∧
      (sw.position = .moving → 1 < sw.movingTicksRemaining →
        (tickSwitchMachines s targets).2 u = targets u) := by
  obtain ⟨hMem, hKey⟩ := KeyedMap.find_eq_some_iff.mp hFind
  have hUid : sw.uid = u := hKey
  subst hUid
  obtain ⟨before, after, hSplit⟩ := List.append_of_mem hMem
  have hNodup : ((before ++ sw :: after).map Switch.uid).Nodup := hSplit ▸ s.switches.nodup
  rw [List.map_append, List.map_cons, List.nodup_append, List.nodup_cons] at hNodup
  have hBefore : ∀ sw' ∈ before, sw'.uid ≠ sw.uid :=
    fun sw' h => hNodup.2.2 _ (List.mem_map_of_mem h) _ List.mem_cons_self
  have hAfter : ∀ sw' ∈ after, sw'.uid ≠ sw.uid :=
    fun sw' h hEq => hNodup.2.1.1 (hEq ▸ List.mem_map_of_mem h)
  have hFold : tickSwitchMachines s targets =
      after.foldl machinesStep (machinesStep (before.foldl machinesStep ([], targets)) sw) := by
    rw [← List.foldl_cons, ← List.foldl_append, ← hSplit]
    rfl
  obtain ⟨hBeforeMachine, hBeforeTarget⟩ :=
    foldl_machinesStep_of_ne hBefore ([], targets) (sw.position, sw.movingTicksRemaining)
  obtain ⟨hAfterMachine, hAfterTarget⟩ := foldl_machinesStep_of_ne hAfter
    (machinesStep (before.foldl machinesStep ([], targets)) sw) (sw.position, sw.movingTicksRemaining)
  rw [hFold, hAfterMachine, hAfterTarget, machinesStep]
  constructor
  · rw [lastWrite_append, hBeforeMachine, lastWrite_nil, machine_tickSwitchMachine, hBeforeTarget]
  · intro hMoving hMore
    rw [target_tickSwitchMachine hMoving hMore, hBeforeTarget]

theorem switchMachineWrite_autoRelease (u : UID) (s : EngineState) (tick : Nat) :
    ∀ c ∈ tickRouteAutoRelease s tick, switchMachineWrite u c = none := by
  intro c hc
  obtain ⟨route, -, hc⟩ := List.mem_flatMap.mp hc
  rcases releaseRoute_cases hc with ⟨_, rfl | ⟨uid, _, rfl⟩ | rfl⟩ | ⟨releaseTick, rfl⟩ <;> rfl

theorem switchMachine_onTick {sys : ControlSystem} {s : EngineState} {tick : Nat} {u : UID}
    {machine : SwitchPosition × Int} (h : (switchMachine u).read s = some machine) :
    (switchMachine u).read (applyAll s (sys.onTick s tick).1) =
        some (machineAfterTick (sys.pendingTargets u) machine) ∧
      (machine.1 = .moving → 1 < machine.2 → (sys.onTick s tick).2.pendingTargets u = sys.pendingTargets u) := by
  obtain ⟨sw, hFind, rfl⟩ := Option.map_eq_some_iff.mp h
  obtain ⟨hMachine, hTarget⟩ := @tickSwitchMachines_machine s sys.pendingTargets u sw hFind
  refine ⟨?_, hTarget⟩
  rw [applyAll, Register.read_foldl, h, Option.map_some]
  congr 1
  calc lastWrite (switchMachineWrite u) (sw.position, sw.movingTicksRemaining) (sys.onTick s tick).1
      = lastWrite (switchMachineWrite u) (sw.position, sw.movingTicksRemaining)
          ((tickSwitchMachines s sys.pendingTargets).1 ++ tickRouteAutoRelease s tick) := rfl
    _ = machineAfterTick (sys.pendingTargets u) (sw.position, sw.movingTicksRemaining) := by
      rw [lastWrite_append, hMachine, lastWrite_of_silent (switchMachineWrite_autoRelease u s tick)]

/-! ## Runs that spare the switch -/

theorem exists_write_executeSetSwitchPosition (cmd : SetSwitchPositionCmd) (throwTimeTicks : Int) :
    ∃ c ∈ executeSetSwitchPosition cmd throwTimeTicks, switchMachineWrite cmd.uid c ≠ none := by
  unfold executeSetSwitchPosition
  split
  · exact ⟨_, List.mem_singleton_self _, by simp [switchMachineWrite]⟩
  · exact ⟨_, List.mem_singleton_self _, by simp [switchMachineWrite]⟩

/-- A command that puts a target on record for `u` writes to its machine as well. -/
theorem targetsAfter_of_spares {sys : ControlSystem} {s : EngineState} {cmd : Command} {u : UID}
    (h : ∀ c ∈ sys.changesOf s cmd, switchMachineWrite u c = none) :
    sys.targetsAfter s cmd u = sys.pendingTargets u := by
  cases cmd
  case setSwitchPosition cmd =>
    have hNe : u ≠ cmd.uid := by
      rintro rfl
      obtain ⟨c, hc, hWrite⟩ := exists_write_executeSetSwitchPosition cmd sys.eea4ThrowTicks
      exact hWrite (h c hc)
    simp only [ControlSystem.targetsAfter]
    split
    · exact if_neg hNe
    · rfl
  case ml8Command cmd =>
    obtain ⟨uid, kind, code⟩ := cmd
    obtain ⟨sysKind, throwTimeTicks, targets⟩ := sys
    cases sysKind with
    | ebilock => rfl
    | ml8 =>
      cases code
      case pz | dpz =>
        simp only [ControlSystem.targetsAfter]
        split
        · rename_i hSet
          refine if_neg ?_
          rintro rfl
          obtain ⟨c, hc, hWrite⟩ := exists_write_executeSetSwitchPosition ⟨u, .divergent⟩ throwTimeTicks
          refine hWrite (h c (List.mem_cons_of_mem _ ?_))
          rw [setPoints, if_pos hSet.1]
          exact hc
        · rfl
      all_goals rfl
  all_goals rfl

variable {φ : Type} {dynamics : TrainDynamics φ}

theorem step_of_spares {w w' : World φ} {a : Action φ} {u : UID} (hStep : w.step dynamics a = some w')
    (hSpares : SparesSwitch u w a) (hTick : isOnTick a = false) :
    (switchMachine u).read w'.state = (switchMachine u).read w.state ∧
      w'.control.pendingTargets u = w.control.pendingTargets u := by
  cases a with
  | command cmd =>
    obtain ⟨-, rfl⟩ := World.step_command.mp hStep
    exact ⟨(switchMachine u).read_foldl_of_silent w.state hSpares, targetsAfter_of_spares hSpares⟩
  | onTick => cases hTick
  | fleetCommand cmd =>
    obtain ⟨hCommand, hControl⟩ := World.step_fleetCommand.mp hStep
    have hSwitches := (executeFleetCommand_onlyOccupancy hCommand).1
    refine ⟨?_, by rw [hControl]⟩
    rw [hSwitches]
    rfl
  | tickTrains =>
    cases hStep
    refine ⟨?_, rfl⟩
    have hSwitches : (tickTrains dynamics w.state w.fleet).1 = _ := (tickTrains_onlyOccupancy w.state w.fleet).1
    dsimp only [tickAll]
    rw [hSwitches]
    rfl
  | advanceTick =>
    cases hStep
    exact ⟨rfl, rfl⟩

theorem step_onTick {w w' : World φ} {u : UID} {machine : SwitchPosition × Int}
    (hStep : w.step dynamics .onTick = some w') (h : (switchMachine u).read w.state = some machine) :
    (switchMachine u).read w'.state = some (machineAfterTick (w.control.pendingTargets u) machine) ∧
      (machine.1 = .moving → 1 < machine.2 → w'.control.pendingTargets u = w.control.pendingTargets u) := by
  cases hStep
  exact switchMachine_onTick h

theorem eq_onTick_of_isOnTick {a : Action φ} (h : isOnTick a = true) : a = .onTick := by
  cases a <;> first | rfl | cases h

/-- A machine that lands, or stands, is left alone until the next tick. -/
theorem run_without_onTick {w w' : World φ} {actions : List (Action φ)} {u : UID}
    (hSpares : Guarded (World.step dynamics) (SparesSwitch u) w actions)
    (hRun : run (World.step dynamics) w actions = some w') (hTicks : onTicks actions = 0) :
    (switchMachine u).read w'.state = (switchMachine u).read w.state := by
  induction actions generalizing w with
  | nil =>
    cases hRun
    rfl
  | cons a actions ih =>
    obtain ⟨w₁, hFirst, hRest⟩ := run_cons.mp hRun
    rw [onTicks, List.countP_cons] at hTicks
    have hQuiet : isOnTick a = false := by
      cases ha : isOnTick a with
      | false => rfl
      | true => simp [ha] at hTicks
    rw [ih (hSpares.2 w₁ hFirst) hRest (by unfold onTicks; omega)]
    exact (step_of_spares hFirst hSpares.1 hQuiet).1

/-- The countdown of a machine in motion through a run that spares it. -/
theorem run_inMotion {w w' : World φ} {actions : List (Action φ)} {u : UID} {target : Option SwitchPosition}
    {ticks : Int} (hMachine : (switchMachine u).read w.state = some (.moving, ticks))
    (hTarget : w.control.pendingTargets u = target)
    (hSpares : Guarded (World.step dynamics) (SparesSwitch u) w actions)
    (hRun : run (World.step dynamics) w actions = some w') (hPos : 0 < ticks) :
    ((onTicks actions : Int) < ticks →
      (switchMachine u).read w'.state = some (.moving, ticks - onTicks actions)) ∧
    ((onTicks actions : Int) = ticks → (switchMachine u).read w'.state = some (target.getD .straight, 0)) := by
  induction actions generalizing w ticks with
  | nil =>
    cases hRun
    refine ⟨fun _ => ?_, fun h => ?_⟩
    · rw [hMachine]
      simp [onTicks]
    · simp only [onTicks, List.countP_nil] at h
      omega
  | cons a actions ih =>
    obtain ⟨w₁, hFirst, hRest⟩ := run_cons.mp hRun
    have hSparesRest := hSpares.2 w₁ hFirst
    cases ha : isOnTick a with
    | false =>
      obtain ⟨hSame, hSameTarget⟩ := step_of_spares hFirst hSpares.1 ha
      have hCount : onTicks (a :: actions) = onTicks actions := by simp [onTicks, ha]
      rw [hCount]
      exact ih (hSame.trans hMachine) (hSameTarget.trans hTarget) hSparesRest hRest hPos
    | true =>
      have hTick := eq_onTick_of_isOnTick ha
      subst hTick
      obtain ⟨hAfter, hKept⟩ := step_onTick hFirst hMachine
      have hCount : onTicks (Action.onTick :: actions) = onTicks actions + 1 := by
        rw [onTicks, onTicks, List.countP_cons_of_pos rfl]
      rw [hCount]
      by_cases hLast : ticks ≤ 1
      · have hOne : ticks = 1 := by omega
        subst hOne
        refine ⟨fun h => by omega, fun h => ?_⟩
        rw [run_without_onTick hSparesRest hRest (by omega), hAfter, hTarget]
        rfl
      · have hMoving : machineAfterTick (w.control.pendingTargets u) (.moving, ticks) = (.moving, ticks - 1) := by
          rw [machineAfterTick, if_pos rfl, if_neg hLast]
        rw [hMoving] at hAfter
        have hNext := ih hAfter ((hKept rfl (by omega)).trans hTarget) hSparesRest hRest (by omega)
        refine ⟨fun h => ?_, fun h => hNext.2 (by omega)⟩
        rw [hNext.1 (by omega)]
        congr 2
        omega

/-! ## The throw -/

theorem effectOf_of_throwOf {sys : ControlSystem} {s : EngineState} {cmd : Command} {u : UID} {p : SwitchPosition}
    (hThrow : throwOf cmd = some (u, p)) (hSwitch : (s.findSwitch u).isSome = true)
    (hCheck : sys.checkCommand s cmd = none) : sys.effectOf s cmd = .switch u p := by
  have hPoints : ∀ position derailer, pointsEffect s u position derailer = .switch u position := by
    intro position derailer
    exact if_pos hSwitch
  cases cmd
  case setSwitchPosition cmd =>
    cases hThrow
    rfl
  case operatorCommand cmd =>
    obtain ⟨uid, kind, code⟩ := cmd
    cases code
    case zwp | zbp | zwm | zbm =>
      cases hThrow
      exact hPoints _ _
    all_goals cases hThrow
  case ml8Command cmd =>
    obtain ⟨uid, kind, code⟩ := cmd
    obtain ⟨sysKind, throwTimeTicks, targets⟩ := sys
    cases sysKind with
    | ebilock => cases hCheck
    | ml8 =>
      cases code
      case pz | dpz =>
        cases hThrow
        exact hPoints _ _
      all_goals cases hThrow
  all_goals cases hThrow

theorem targetsAfter_of_throwOf {sys : ControlSystem} {s : EngineState} {cmd : Command} {u : UID}
    {p : SwitchPosition} (hThrow : throwOf cmd = some (u, p)) (hSwitch : (s.findSwitch u).isSome = true)
    (hCheck : sys.checkCommand s cmd = none) (hTicks : 0 < sys.eea4ThrowTicks) :
    (sys.targetsAfter s cmd u).getD .straight = p ↔ TargetOnRecord sys u p cmd := by
  cases cmd
  case setSwitchPosition cmd =>
    cases hThrow
    simp [ControlSystem.targetsAfter, PendingTargets.set, TargetOnRecord, hTicks]
  case operatorCommand cmd => exact Iff.rfl
  case ml8Command cmd =>
    obtain ⟨uid, kind, code⟩ := cmd
    obtain ⟨sysKind, throwTimeTicks, targets⟩ := sys
    cases sysKind with
    | ebilock => cases hCheck
    | ml8 =>
      cases code
      case pz | dpz =>
        cases hThrow
        simp [ControlSystem.targetsAfter, PendingTargets.set, TargetOnRecord, hTicks, hSwitch]
      all_goals cases hThrow
  all_goals cases hThrow

theorem machine_of_throw {w w' : World φ} {cmd : Command} {u : UID} {p : SwitchPosition}
    (hThrow : throwOf cmd = some (u, p)) (hSwitch : (w.state.findSwitch u).isSome = true)
    (hTicks : 0 < w.control.eea4ThrowTicks) (hStep : w.step dynamics (.command cmd) = some w') :
    (switchMachine u).read w'.state = some (.moving, w.control.eea4ThrowTicks) ∧
      ((w'.control.pendingTargets u).getD .straight = p ↔ TargetOnRecord w.control u p cmd) := by
  obtain ⟨hCheck, rfl⟩ := World.step_command.mp hStep
  have hKind : isRouteCommand cmd = false := by
    cases cmd <;> first | rfl | cases hThrow
  obtain ⟨sw, hFind⟩ := Option.isSome_iff_exists.mp hSwitch
  have hRead := read_changesOf (switchMachine u) (fun _ => switchMachineWrite_of_isQuiet u) w.control w.state hKind
  rw [effectOf_of_throwOf hThrow hSwitch hCheck] at hRead
  refine ⟨hRead.trans ?_, targetsAfter_of_throwOf hThrow hSwitch hCheck hTicks⟩
  simp [CommandEffect.changes, executeSetSwitchPosition, hTicks, switchMachine, switchMachineWrite, hFind]

theorem onTicks_replicate (n : Nat) : onTicks (List.replicate n (Action.onTick : Action φ)) = n := by
  rw [onTicks, List.countP_replicate]
  rfl

theorem exists_run_onTicks (w : World φ) (n : Nat) :
    ∃ w', run (World.step dynamics) w (List.replicate n .onTick) = some w' := by
  induction n generalizing w with
  | zero => exact ⟨w, rfl⟩
  | succ n ih =>
    obtain ⟨w', hRun⟩ := ih ((w.step dynamics .onTick).getD w)
    exact ⟨w', run_cons.mpr ⟨_, rfl, hRun⟩⟩

/-- A machine in motion lands at the target on record, and nowhere else. -/
theorem landsAt_of_inMotion {w : World φ} {u : UID} {ticks : Int} (p : SwitchPosition)
    (hMachine : (switchMachine u).read w.state = some (.moving, ticks)) (hPos : 0 < ticks) :
    LandsAt dynamics u p ticks w ↔ (w.control.pendingTargets u).getD .straight = p := by
  have hOutcome := fun (actions : List (Action φ)) (v : World φ) hSpares hRun =>
    @run_inMotion φ dynamics w v actions u _ _ hMachine rfl hSpares hRun hPos
  constructor
  · intro hLands
    obtain ⟨v, hRun⟩ := @exists_run_onTicks φ dynamics w ticks.toNat
    have hSpares : Guarded (World.step dynamics) (SparesSwitch u) w (List.replicate ticks.toNat .onTick) := by
      refine guarded_of_forall_mem (fun a ha s => ?_) w
      rw [List.eq_of_mem_replicate ha]
      trivial
    have hAll : (onTicks (List.replicate ticks.toNat (Action.onTick : Action φ)) : Int) = ticks := by
      rw [onTicks_replicate]
      omega
    obtain ⟨sw, hFind, hStands⟩ := (hLands _ v hSpares hRun).2 hAll
    obtain ⟨sw', hFind', hValue⟩ := Option.map_eq_some_iff.mp ((hOutcome _ v hSpares hRun).2 hAll)
    cases hFind.symm.trans hFind'
    rw [← hStands]
    exact (Prod.mk.inj hValue).1.symm
  · rintro hTarget actions v hSpares hRun
    obtain ⟨hMoving, hLanded⟩ := hOutcome actions v hSpares hRun
    refine ⟨fun hBefore => ?_, fun hAll => ?_⟩
    · obtain ⟨sw, hFind, hValue⟩ := Option.map_eq_some_iff.mp (hMoving hBefore)
      exact ⟨sw, hFind, (Prod.mk.inj hValue).1, (Prod.mk.inj hValue).2⟩
    · obtain ⟨sw, hFind, hValue⟩ := Option.map_eq_some_iff.mp (hLanded hAll)
      exact ⟨sw, hFind, (Prod.mk.inj hValue).1.trans hTarget⟩

/-- An accepted throw lands where it was commanded exactly when its target is on record. -/
theorem landsAt_iff {w w' : World φ} {cmd : Command} {u : UID} {p : SwitchPosition}
    (hThrow : throwOf cmd = some (u, p)) (hSwitch : (w.state.findSwitch u).isSome = true)
    (hTicks : 1 ≤ w.control.eea4ThrowTicks) (hStep : w.step dynamics (.command cmd) = some w') :
    LandsAt dynamics u p w.control.eea4ThrowTicks w' ↔ TargetOnRecord w.control u p cmd := by
  obtain ⟨hMachine, hTarget⟩ := machine_of_throw hThrow hSwitch hTicks hStep
  rw [landsAt_of_inMotion p hMachine hTicks]
  exact hTarget

theorem exists_step_of_check {w : World φ} {cmd : Command} (hCheck : w.control.checkCommand w.state cmd = none) :
    ∃ w', w.step dynamics (.command cmd) = some w' := ⟨_, World.step_command.mpr ⟨hCheck, rfl⟩⟩

theorem landsAt_setSwitchPosition : ∃ w', (World.start .ebilock forkStation).step World.idleTrains
      (.command (.setSwitchPosition ⟨⟨10⟩, .divergent⟩)) = some w' ∧
    LandsAt World.idleTrains ⟨10⟩ .divergent 90 w' := by
  obtain ⟨w', hStep⟩ := @exists_step_of_check Unit World.idleTrains (World.start .ebilock forkStation)
    (.setSwitchPosition ⟨⟨10⟩, .divergent⟩) (by decide +kernel)
  exact ⟨w', hStep, (landsAt_iff rfl (by decide +kernel) (by decide) hStep).mpr trivial⟩

/-- ZWM at a switch of the loaded fork lands it on its straight leg. -/
theorem zwm_landsStraight : ¬ ∀ (w w' : World Unit) (cmd : Command) (u : UID) (p : SwitchPosition),
    throwOf cmd = some (u, p) → (w.state.findSwitch u).isSome = true → 1 ≤ w.control.eea4ThrowTicks →
      w.step World.idleTrains (.command cmd) = some w' →
        LandsAt World.idleTrains u p w.control.eea4ThrowTicks w' := by
  intro h
  let zwm : Command := .operatorCommand ⟨⟨10⟩, .switch, .zwm⟩
  have hThrow : throwOf zwm = some (⟨10⟩, .divergent) := rfl
  have hSwitch : ((World.start .ebilock forkStation).state.findSwitch ⟨10⟩).isSome = true := by decide +kernel
  obtain ⟨w', hStep⟩ := @exists_step_of_check Unit World.idleTrains (World.start .ebilock forkStation) zwm
    (by decide +kernel)
  have hLands := h _ w' zwm ⟨10⟩ .divergent hThrow hSwitch (by decide) hStep
  obtain ⟨hMachine, hTarget⟩ := machine_of_throw hThrow hSwitch (by decide) hStep
  have hRecord := hTarget.mp ((landsAt_of_inMotion .divergent hMachine (by decide)).mp hLands)
  cases hRecord

end Symulator.Interlocking
