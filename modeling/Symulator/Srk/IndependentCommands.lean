import Symulator.Srk.BlockSections

/-! # Commands on different devices

A command on one device reads that device, the occupancy of track sections and the tick, and rewrites that
device. Two of them with different targets see the same whichever comes first, and lead to the same world.
-/

namespace Symulator.Srk

open Symulator.Library Symulator.Engine

set_option autoImplicit false

/-! ## Rewriting one device -/

/-- The rewriting of one device, or the end of one alarm. -/
inductive DeviceUpdate
  | switch (uid : UID) (f : Switch → Switch) (hUid : ∀ sw, (f sw).uid = sw.uid)
  | signal (uid : UID) (f : Signal → Signal) (hUid : ∀ sig, (f sig).uid = sig.uid)
  | derailer (uid : UID) (f : Derailer → Derailer) (hUid : ∀ d, (f d).uid = d.uid)
  | blockSection (uid : UID) (f : BlockSection → BlockSection) (hUid : ∀ bs, (f bs).uid = bs.uid)
  | alarm (uid : UID)

namespace DeviceUpdate

def uid : DeviceUpdate → UID
  | .switch uid _ _ | .signal uid _ _ | .derailer uid _ _ | .blockSection uid _ _ | .alarm uid => uid

def act (s : EngineState) : DeviceUpdate → EngineState
  | .switch uid f hUid => { s with switches := s.switches.modify uid f hUid }
  | .signal uid f hUid => { s with signals := s.signals.modify uid f hUid }
  | .derailer uid f hUid => { s with derailers := s.derailers.modify uid f hUid }
  | .blockSection uid f hUid => { s with blockSections := s.blockSections.modify uid f hUid }
  | .alarm uid => { s with alarms := s.alarms.erase uid }

theorem act_comm (s : EngineState) {e e' : DeviceUpdate} (h : e.uid ≠ e'.uid) :
    e'.act (e.act s) = e.act (e'.act s) := by
  cases e <;> cases e'
  case switch.switch => exact congrArg (fun m => { s with switches := m }) (KeyedMap.modify_comm _ h _ _)
  case signal.signal => exact congrArg (fun m => { s with signals := m }) (KeyedMap.modify_comm _ h _ _)
  case derailer.derailer => exact congrArg (fun m => { s with derailers := m }) (KeyedMap.modify_comm _ h _ _)
  case blockSection.blockSection =>
    exact congrArg (fun m => { s with blockSections := m }) (KeyedMap.modify_comm _ h _ _)
  case alarm.alarm => exact congrArg (fun m => { s with alarms := m }) (KeyedMap.erase_comm _ _ _)
  all_goals rfl

/-! What other devices show after an update, and what no update touches. -/

section Lookups

variable {s : EngineState} {e : DeviceUpdate} {u : UID} (h : u ≠ e.uid)

include h

theorem findSwitch_act : (e.act s).findSwitch u = s.findSwitch u := by
  cases e
  case switch uid f hUid => exact KeyedMap.find_modify_of_ne s.switches h hUid
  all_goals rfl

theorem findSignal_act : (e.act s).findSignal u = s.findSignal u := by
  cases e
  case signal uid f hUid => exact KeyedMap.find_modify_of_ne s.signals h hUid
  all_goals rfl

theorem findDerailer_act : (e.act s).findDerailer u = s.findDerailer u := by
  cases e
  case derailer uid f hUid => exact KeyedMap.find_modify_of_ne s.derailers h hUid
  all_goals rfl

theorem findBlockSection_act : (e.act s).findBlockSection u = s.findBlockSection u := by
  cases e
  case blockSection uid f hUid => exact KeyedMap.find_modify_of_ne s.blockSections h hUid
  all_goals rfl

theorem findAlarm_act : (e.act s).findAlarm u = s.findAlarm u := by
  cases e
  case alarm => exact (KeyedMap.find_erase _ _ _).trans (if_neg h)
  all_goals rfl

end Lookups

@[simp] theorem findTrackSection_act (s : EngineState) (e : DeviceUpdate) (u : UID) :
    (e.act s).findTrackSection u = s.findTrackSection u := by
  cases e <;> rfl

@[simp] theorem currentTick_act (s : EngineState) (e : DeviceUpdate) : (e.act s).currentTick = s.currentTick := by
  cases e <;> rfl

end DeviceUpdate

/-! ## Commands on one device -/

/-- The target of a command on one device; the other commands have none here. -/
def deviceTarget : Command → Option UID
  | .setSwitchPosition cmd => some cmd.uid
  | .setSignalAspect cmd => some cmd.uid
  | .setDerailerPosition cmd => some cmd.uid
  | .setBlockSection cmd => some cmd.uid
  | .acknowledgeAlarm cmd => some cmd.alarmUid
  | .setBlockDirection cmd => some cmd.blockSectionUid
  | .initAxleCounterReset cmd => some cmd.blockSectionUid
  | .resetAxleCounter cmd => some cmd.blockSectionUid
  | .requestRoute _ | .cancelRoute _ | .operatorCommand _ | .ml8Command _ => none

/-- What a command on one device sees of the world is left alone by an update of another device. -/
theorem checkCommand_act {sys : ControlSystem} {s : EngineState} {e : DeviceUpdate} {cmd : Command} {u : UID}
    (hTarget : deviceTarget cmd = some u) (h : u ≠ e.uid) :
    sys.checkCommand (e.act s) cmd = sys.checkCommand s cmd := by
  cases cmd
  case requestRoute | cancelRoute | operatorCommand | ml8Command => cases hTarget
  case setSwitchPosition cmd =>
    cases hTarget
    simp only [ControlSystem.checkCommand, checkSetSwitchPosition, DeviceUpdate.findSwitch_act h]
  case setSignalAspect cmd =>
    cases hTarget
    simp only [ControlSystem.checkCommand, checkSetSignalAspect, DeviceUpdate.findSignal_act h]
  case setDerailerPosition cmd =>
    cases hTarget
    simp only [ControlSystem.checkCommand, checkSetDerailerPosition, DeviceUpdate.findDerailer_act h,
      DeviceUpdate.findTrackSection_act]
  case acknowledgeAlarm cmd =>
    cases hTarget
    simp only [ControlSystem.checkCommand, checkAcknowledgeAlarm, DeviceUpdate.findAlarm_act h]
  case setBlockSection cmd =>
    cases hTarget
    simp only [ControlSystem.checkCommand, checkSetBlockSection, DeviceUpdate.findBlockSection_act h]
  case setBlockDirection cmd =>
    cases hTarget
    simp only [ControlSystem.checkCommand, checkSetBlockDirection, DeviceUpdate.findBlockSection_act h]
  case initAxleCounterReset cmd =>
    cases hTarget
    simp only [ControlSystem.checkCommand, checkInitAxleCounterReset, DeviceUpdate.findBlockSection_act h]
  case resetAxleCounter cmd =>
    cases hTarget
    simp only [ControlSystem.checkCommand, checkResetAxleCounter, DeviceUpdate.findBlockSection_act h,
      DeviceUpdate.currentTick_act]

def shl12State (held : BlockSectionState) : Shl12Op → BlockSectionState
  | .blp => .open
  | .blz | .bla | .ops => .closed
  | .blw | .blo | .blai => held

theorem applyAll_setBlockDirection (s : EngineState) (cmd : SetBlockDirectionCmd) :
    applyAll s (executeSetBlockDirection s cmd) = DeviceUpdate.act s (.blockSection cmd.blockSectionUid
      (fun bs => { bs with
        direction := shl12Turn bs.direction cmd.operation
        resetInitTick := none
        state := shl12State bs.state cmd.operation }) (fun _ => rfl)) := by
  obtain ⟨uid, operation⟩ := cmd
  cases hFind : s.findBlockSection uid with
  | none =>
    simp only [executeSetBlockDirection, hFind, applyAll_nil, DeviceUpdate.act]
    rw [KeyedMap.modify_congr s.blockSections _ (fun _ => rfl) (g := id), KeyedMap.modify_id]
    intro bs hBlock
    cases hBlock.symm.trans hFind
  | some bs =>
    simp only [executeSetBlockDirection, hFind]
    cases operation
    case blp =>
      dsimp only
      split
      all_goals
        rename_i hDirection
        simp only [applyAll_cons, applyAll_nil, apply, DeviceUpdate.act, EngineState.applyBlockSectionDirection,
          EngineState.applyBlockSectionState, KeyedMap.modify_modify]
        congr 1
        refine KeyedMap.modify_congr _ _ _ fun bs' hBlock => ?_
        cases hBlock.symm.trans hFind
        simp [shl12Turn, shl12State, hDirection]
    all_goals
      simp [apply, DeviceUpdate.act, EngineState.applyBlockSectionDirection, EngineState.applyBlockSectionState,
        KeyedMap.modify_modify, shl12Turn, shl12State]

theorem exists_update (sys : ControlSystem) (tick : Nat) {cmd : Command} {u : UID}
    (hTarget : deviceTarget cmd = some u) :
    ∃ e : DeviceUpdate, e.uid = u ∧
      ∀ s : EngineState, s.currentTick = tick → applyAll s (sys.changesOf s cmd) = e.act s := by
  cases cmd
  case requestRoute | cancelRoute | operatorCommand | ml8Command => cases hTarget
  case setSwitchPosition cmd =>
    cases hTarget
    refine ⟨.switch cmd.uid (fun sw => { sw with
      position := if sys.eea4ThrowTicks > 0 then .moving else cmd.position
      movingTicksRemaining := if sys.eea4ThrowTicks > 0 then sys.eea4ThrowTicks else 0 }) (fun _ => rfl), rfl, ?_⟩
    intro s _
    simp only [ControlSystem.changesOf, executeSetSwitchPosition]
    split <;> rfl
  case setSignalAspect cmd =>
    cases hTarget
    refine ⟨.signal cmd.uid (fun sig => { sig with
      currentAspect := cmd.aspect
      lockedByRouteUid := if cmd.aspect.isStop = true then none else sig.lockedByRouteUid }) (fun _ => rfl), rfl, ?_⟩
    intro s _
    cases hStop : cmd.aspect.isStop
    all_goals simp [ControlSystem.changesOf, executeSetSignalAspect, apply, hStop, DeviceUpdate.act,
      EngineState.applySignalAspect, EngineState.applySignalLock, KeyedMap.modify_modify]
  case setDerailerPosition cmd =>
    cases hTarget
    refine ⟨.derailer cmd.uid (fun d => { d with
      state := cmd.position
      lockedByRouteUid := if cmd.position = .locked then none else d.lockedByRouteUid }) (fun _ => rfl), rfl, ?_⟩
    intro s _
    cases hPosition : cmd.position
    all_goals simp [ControlSystem.changesOf, executeSetDerailerPosition, apply, hPosition, DeviceUpdate.act,
      EngineState.applyDerailerState, EngineState.applyDerailerLock, KeyedMap.modify_modify]
  case acknowledgeAlarm cmd =>
    cases hTarget
    exact ⟨.alarm cmd.alarmUid, rfl, fun _ _ => rfl⟩
  case setBlockSection cmd =>
    cases hTarget
    exact ⟨.blockSection cmd.uid (fun bs => { bs with state := cmd.state }) (fun _ => rfl), rfl, fun _ _ => rfl⟩
  case setBlockDirection cmd =>
    cases hTarget
    exact ⟨_, rfl, fun s _ => applyAll_setBlockDirection s cmd⟩
  case initAxleCounterReset cmd =>
    cases hTarget
    refine ⟨.blockSection cmd.blockSectionUid (fun bs => { bs with
      direction := .resetPending
      resetInitTick := some tick }) (fun _ => rfl), rfl, ?_⟩
    rintro s rfl
    rfl
  case resetAxleCounter cmd =>
    cases hTarget
    refine ⟨.blockSection cmd.blockSectionUid (fun bs => { bs with
      direction := .neutral
      resetInitTick := none
      state := .closed }) (fun _ => rfl), rfl, ?_⟩
    intro s _
    simp [ControlSystem.changesOf, executeResetAxleCounter, apply, DeviceUpdate.act,
      EngineState.applyBlockSectionDirection, EngineState.applyBlockSectionState, KeyedMap.modify_modify]

/-! ## Two commands on different devices -/

theorem PendingTargets.set_comm (targets : PendingTargets) {u v : UID} (h : u ≠ v) (p q : SwitchPosition) :
    (targets.set u p).set v q = (targets.set v q).set u p := by
  funext x
  unfold PendingTargets.set
  by_cases hu : x = u
  · have hv : x ≠ v := fun hv => h (hu.symm.trans hv)
    rw [if_neg hv, if_pos hu, if_pos hu]
  · rw [if_neg hu, if_neg hu]

def recordedTarget (throwTimeTicks : Int) : Command → Option SwitchPosition
  | .setSwitchPosition cmd => if throwTimeTicks > 0 then some cmd.position else none
  | _ => none

namespace World

variable {φ : Type} {dynamics : TrainDynamics φ}

/-- One device rewritten, and the target of a switch set in motion recorded. -/
def update (w : World φ) (e : DeviceUpdate) (position : Option SwitchPosition) : World φ where
  state := e.act w.state
  control := { w.control with
    pendingTargets := position.elim w.control.pendingTargets (w.control.pendingTargets.set e.uid) }
  fleet := w.fleet

theorem update_comm (w : World φ) {e e' : DeviceUpdate} (h : e.uid ≠ e'.uid) (p p' : Option SwitchPosition) :
    (w.update e p).update e' p' = (w.update e' p').update e p := by
  simp only [update, DeviceUpdate.act_comm w.state h]
  cases p <;> cases p' <;> simp only [Option.elim_none, Option.elim_some]
  rw [PendingTargets.set_comm _ h]

theorem checkCommand_update {w : World φ} {e : DeviceUpdate} {p : Option SwitchPosition} {cmd : Command} {u : UID}
    (hTarget : deviceTarget cmd = some u) (h : u ≠ e.uid) :
    (w.update e p).control.checkCommand (w.update e p).state cmd = w.control.checkCommand w.state cmd := by
  refine Eq.trans ?_ (checkCommand_act hTarget h)
  cases cmd
  case requestRoute | cancelRoute | operatorCommand | ml8Command => cases hTarget
  all_goals rfl

theorem attempt_of_refused {w : World φ} {cmd : Command} {v : InterlockingViolation}
    (h : w.control.checkCommand w.state cmd = some v) : w.attempt dynamics (.command cmd) = w := by
  simp only [attempt, step, h, Option.getD_none]

theorem attempt_of_accepted {w : World φ} {cmd : Command} (h : w.control.checkCommand w.state cmd = none) :
    w.attempt dynamics (.command cmd) =
      { w with
        state := applyAll w.state (w.control.changesOf w.state cmd)
        control := { w.control with pendingTargets := w.control.targetsAfter w.state cmd } } := by
  simp only [attempt, step, h, ControlSystem.executeCommand, Option.getD_some]

/-- Worlds with the tick and the switch machines of `w`, in which a command amounts to the same update. -/
def Likewise (w v : World φ) : Prop :=
  v.state.currentTick = w.state.currentTick ∧ v.control.eea4ThrowTicks = w.control.eea4ThrowTicks

theorem likewise_update (w : World φ) (e : DeviceUpdate) (p : Option SwitchPosition) : w.Likewise (w.update e p) :=
  ⟨DeviceUpdate.currentTick_act w.state e, rfl⟩

theorem exists_attempt_update (w : World φ) {cmd : Command} {u : UID} (hTarget : deviceTarget cmd = some u) :
    ∃ e : DeviceUpdate, e.uid = u ∧ ∀ v : World φ, w.Likewise v → v.control.checkCommand v.state cmd = none →
      v.attempt dynamics (.command cmd) = v.update e (recordedTarget w.control.eea4ThrowTicks cmd) := by
  obtain ⟨e, hUid, hAct⟩ := exists_update w.control w.state.currentTick hTarget
  refine ⟨e, hUid, fun v hLike hAccepted => ?_⟩
  have hChanges : v.control.changesOf v.state cmd = w.control.changesOf v.state cmd := by
    cases cmd
    case requestRoute | cancelRoute | operatorCommand | ml8Command => cases hTarget
    case setSwitchPosition cmd => exact congrArg (executeSetSwitchPosition cmd) hLike.2
    all_goals rfl
  have hTargets : v.control.targetsAfter v.state cmd =
      (recordedTarget w.control.eea4ThrowTicks cmd).elim v.control.pendingTargets
        (v.control.pendingTargets.set e.uid) := by
    cases cmd
    case requestRoute | cancelRoute | operatorCommand | ml8Command => cases hTarget
    case setSwitchPosition cmd =>
      cases hTarget
      rw [hUid]
      simp only [ControlSystem.targetsAfter, recordedTarget, hLike.2]
      split <;> rfl
    all_goals rfl
  rw [attempt_of_accepted hAccepted, hTargets, hChanges, hAct v.state hLike.1]
  rfl

theorem checkCommand_attempt (w : World φ) {c d : Command} {u v : UID} (hc : deviceTarget c = some u)
    (hd : deviceTarget d = some v) (h : u ≠ v) :
    (w.attempt dynamics (.command c)).control.checkCommand (w.attempt dynamics (.command c)).state d =
      w.control.checkCommand w.state d := by
  cases hVerdict : w.control.checkCommand w.state c with
  | some x => rw [attempt_of_refused hVerdict]
  | none =>
    obtain ⟨e, rfl, hUpdate⟩ := @exists_attempt_update _ dynamics w c u hc
    rw [hUpdate w ⟨rfl, rfl⟩ hVerdict]
    exact checkCommand_update hd h.symm

/-- Two commands with different targets among those on one device get the same verdicts and lead to the same
world in either order. -/
theorem independentCommands_commute (w : World φ) {c d : Command} {u v : UID} (hc : deviceTarget c = some u)
    (hd : deviceTarget d = some v) (h : u ≠ v) :
    (w.attempt dynamics (.command c)).control.checkCommand (w.attempt dynamics (.command c)).state d =
        w.control.checkCommand w.state d ∧
      (w.attempt dynamics (.command d)).control.checkCommand (w.attempt dynamics (.command d)).state c =
        w.control.checkCommand w.state c ∧
      (w.attempt dynamics (.command c)).attempt dynamics (.command d) =
        (w.attempt dynamics (.command d)).attempt dynamics (.command c) := by
  have hAfterC := @checkCommand_attempt _ dynamics w c d u v hc hd h
  have hAfterD := @checkCommand_attempt _ dynamics w d c v u hd hc h.symm
  refine ⟨hAfterC, hAfterD, ?_⟩
  obtain ⟨e, rfl, hFirst⟩ := @exists_attempt_update _ dynamics w c u hc
  obtain ⟨e', rfl, hSecond⟩ := @exists_attempt_update _ dynamics w d v hd
  cases hVerdict : w.control.checkCommand w.state c with
  | some x =>
    rw [hVerdict] at hAfterD
    rw [attempt_of_refused hVerdict, attempt_of_refused hAfterD]
  | none =>
    cases hVerdict' : w.control.checkCommand w.state d with
    | some x =>
      rw [hVerdict'] at hAfterC
      rw [attempt_of_refused hVerdict', attempt_of_refused hAfterC]
    | none =>
      rw [hVerdict'] at hAfterC
      rw [hVerdict] at hAfterD
      rw [hFirst w ⟨rfl, rfl⟩ hVerdict] at hAfterC ⊢
      rw [hSecond w ⟨rfl, rfl⟩ hVerdict'] at hAfterD ⊢
      rw [hSecond _ (likewise_update w e _) hAfterC, hFirst _ (likewise_update w e' _) hAfterD,
        update_comm w h]

/-- A throw of switch 10 and a proceed aspect on signal 21, of which the station accepts both. -/
theorem independentCommands_commute_fork :
    ((start .ml8 forkStation).control.checkCommand (start .ml8 forkStation).state
        (.setSwitchPosition ⟨⟨10⟩, .divergent⟩)).isNone = true ∧
      ((start .ml8 forkStation).control.checkCommand (start .ml8 forkStation).state
        (.setSignalAspect ⟨⟨21⟩, .s2Proceed⟩)).isNone = true ∧
      ((start .ml8 forkStation).attempt idleTrains (.command (.setSwitchPosition ⟨⟨10⟩, .divergent⟩))).attempt
          idleTrains (.command (.setSignalAspect ⟨⟨21⟩, .s2Proceed⟩)) =
        ((start .ml8 forkStation).attempt idleTrains (.command (.setSignalAspect ⟨⟨21⟩, .s2Proceed⟩))).attempt
          idleTrains (.command (.setSwitchPosition ⟨⟨10⟩, .divergent⟩)) :=
  ⟨by decide +kernel, by decide +kernel, (independentCommands_commute (start .ml8 forkStation) rfl rfl (by decide)).2.2⟩

end World

end Symulator.Srk
