import Symulator.Srk.DeviceRules

/-! # The two control systems

EbiLock X4 and ESTW ML8 dispatch commands to the shared rules. They keep the throw time of their
switch machines and the target of every switch in motion; only ML8 has commands of its own.
-/

namespace Symulator.Srk

open Symulator.Library Symulator.Engine

set_option autoImplicit false

inductive ControlSystemKind
  | ebilock | ml8
deriving DecidableEq, Repr

structure ControlSystem where
  kind : ControlSystemKind
  eea4ThrowTicks : Int := 90
  pendingTargets : PendingTargets := fun _ => none

def kPolicies : List IRoutePathPolicy := [flankProtectionPolicy]

/-- The switch check of the ML8 commands; it does not ask for a route lock. -/
def checkMl8Switch (state : EngineState) (uid : UID) : Option InterlockingViolation :=
  match state.findSwitch uid with
  | none => none
  | some sw =>
    if sw.occupancy = .occupied then
      violation nakSafetyBlock ("Switch is occupied: " ++ uidStr uid) uid
    else if sw.position = .moving then
      violation nakInvalidState ("Switch is moving: " ++ uidStr uid) uid
    else none

def checkMl8Command (state : EngineState) (cmd : Ml8CommandCmd) : Option InterlockingViolation :=
  if ¬ targetExists state cmd.targetUid cmd.targetKind then
    violation nakNotFound ("ML8 command target not found: " ++ uidStr cmd.targetUid) cmd.targetUid
  else
    match cmd.code with
    | .pz | .dpz | .ppz | .wpz => checkMl8Switch state cmd.targetUid
    | .blz | .zwbl =>
      match state.findBlockSection cmd.targetUid with
      | none => none
      | some bs =>
        if bs.axleCount ≠ 0 then
          violation nakSafetyBlock "Cannot restore block: axle count != 0" cmd.targetUid
        else none
    | _ => none

def executeMl8Command (state : EngineState) (cmd : Ml8CommandCmd) (throwTimeTicks : Int) :
    List DeviceStateChange :=
  .ml8CommandStateChange cmd.targetUid cmd.targetKind cmd.code true ::
    match cmd.code with
    | .stoj | .stj | .stop => setSignalToStop state cmd.targetUid
    | .sz | .nsz =>
      if (state.findSignal cmd.targetUid).isSome then
        [.signalAspectChange cmd.targetUid .s2Proceed .command none]
      else []
    | .pz | .dpz => setPoints state cmd.targetUid .divergent .unlocked throwTimeTicks
    | .zerolo => [.axleCounterResetChange cmd.targetUid cmd.targetKind]
    | .wbl => [.blockDirectionChange cmd.targetUid .outboundPending true]
    | .pzk => confirmBlockDirection state cmd.targetUid
    | .azk => [.blockDirectionChange cmd.targetUid .emergency false]
    | .blz | .zwbl | .owbl =>
      [.blockDirectionChange cmd.targetUid .neutral false, .blockSectionStateChange cmd.targetUid .closed]
    | .ppz | .ostop | .ouz | .ouzDr | .ouzDz | .ouzJn | .ouzPj | .ouzX | .ouzZn | .opo | .wpn | .wpz =>
      [.ml8CommandStateChange cmd.targetUid cmd.targetKind cmd.code false]
    | _ => []

namespace ControlSystem

def checkCommand (sys : ControlSystem) (state : EngineState) : Command → Option InterlockingViolation
  | .setSwitchPosition cmd => checkSetSwitchPosition state cmd
  | .setSignalAspect cmd => checkSetSignalAspect state cmd
  | .setDerailerPosition cmd => checkSetDerailerPosition state cmd
  | .setBlockSection cmd => checkSetBlockSection state cmd
  | .requestRoute cmd => checkRequestRoute state cmd kPolicies
  | .cancelRoute cmd => checkCancelRoute state cmd
  | .acknowledgeAlarm cmd => checkAcknowledgeAlarm state cmd
  | .setBlockDirection cmd => checkSetBlockDirection state cmd
  | .initAxleCounterReset cmd => checkInitAxleCounterReset state cmd
  | .resetAxleCounter cmd => checkResetAxleCounter state cmd
  | .operatorCommand cmd => checkOperatorCommand state cmd
  | .ml8Command cmd =>
    match sys.kind with
    | .ebilock => violation nakUnsupported "Unrecognised command"
    | .ml8 => checkMl8Command state cmd

def changesOf (sys : ControlSystem) (state : EngineState) : Command → List DeviceStateChange
  | .setSwitchPosition cmd => executeSetSwitchPosition cmd sys.eea4ThrowTicks
  | .setSignalAspect cmd => executeSetSignalAspect cmd
  | .setDerailerPosition cmd => executeSetDerailerPosition cmd
  | .setBlockSection cmd => executeSetBlockSection cmd
  | .requestRoute cmd => executeRequestRoute state cmd state.currentTick kPolicies
  | .cancelRoute cmd => executeCancelRoute state cmd
  | .acknowledgeAlarm cmd => executeAcknowledgeAlarm cmd
  | .setBlockDirection cmd => executeSetBlockDirection state cmd
  | .initAxleCounterReset cmd => executeInitAxleCounterReset cmd
  | .resetAxleCounter cmd => executeResetAxleCounter cmd
  | .operatorCommand cmd => executeOperatorCommand state cmd sys.eea4ThrowTicks
  | .ml8Command cmd =>
    match sys.kind with
    | .ebilock => []
    | .ml8 => executeMl8Command state cmd sys.eea4ThrowTicks

/-- The targets recorded for the switches a command sets in motion. The operator commands that throw
a switch record none. -/
def targetsAfter (sys : ControlSystem) (state : EngineState) : Command → PendingTargets
  | .setSwitchPosition cmd =>
    if sys.eea4ThrowTicks > 0 then sys.pendingTargets.set cmd.uid cmd.position else sys.pendingTargets
  | .ml8Command cmd =>
    match sys.kind, cmd.code with
    | .ml8, .pz | .ml8, .dpz =>
      if (state.findSwitch cmd.targetUid).isSome ∧ sys.eea4ThrowTicks > 0 then
        sys.pendingTargets.set cmd.targetUid .divergent
      else sys.pendingTargets
    | _, _ => sys.pendingTargets
  | _ => sys.pendingTargets

def executeCommand (sys : ControlSystem) (state : EngineState) (cmd : Command) :
    List DeviceStateChange × ControlSystem :=
  (sys.changesOf state cmd, { sys with pendingTargets := sys.targetsAfter state cmd })

def onTick (sys : ControlSystem) (state : EngineState) (tickNum : Nat) :
    List DeviceStateChange × ControlSystem :=
  let (machines, targets) := tickSwitchMachines state sys.pendingTargets
  (machines ++ tickRouteAutoRelease state tickNum, { sys with pendingTargets := targets })

end ControlSystem

end Symulator.Srk
