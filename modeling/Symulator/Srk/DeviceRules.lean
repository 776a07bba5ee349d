import Symulator.Srk.RouteGraph

/-! # Shared interlocking rules

Both control systems share these rules for station equipment. A check returns the violation it
finds, or `none`; an execution returns the changes to apply.
-/

namespace Symulator.Srk

open Symulator.Library Symulator.Engine

set_option autoImplicit false

def nakNotFound : Nat := 0x01
def nakSafetyBlock : Nat := 0x02
def nakInvalidState : Nat := 0x03
def nakRouteLocked : Nat := 0x04
def nakNoPath : Nat := 0x05
def nakSwitchMoving : Nat := 0x06
def nakUnsupported : Nat := 0x07

def violation (code : Nat) (text : String) (uid : UID := {}) : Option InterlockingViolation :=
  some ⟨code, text, uid⟩

def uidStr (uid : UID) : String := toString uid.value

/-! ## R1: SetSwitchPosition -/

def checkSetSwitchPosition (state : EngineState) (cmd : SetSwitchPositionCmd) :
    Option InterlockingViolation :=
  match state.findSwitch cmd.uid with
  | none => violation nakNotFound ("Switch not found: " ++ uidStr cmd.uid) cmd.uid
  | some sw =>
    if sw.position = .moving then
      violation nakSwitchMoving ("Switch is already moving: " ++ uidStr cmd.uid) cmd.uid
    else if sw.occupancy = .occupied then
      violation nakSafetyBlock ("Switch is occupied: " ++ uidStr cmd.uid) cmd.uid
    else
      match sw.lockedByRouteUid with
      | some routeUid =>
        violation nakRouteLocked
          ("Switch locked by route " ++ uidStr routeUid ++ ": " ++ uidStr cmd.uid) cmd.uid
      | none =>
        if sw.position = cmd.position then
          violation nakInvalidState ("Switch already in requested position: " ++ uidStr cmd.uid) cmd.uid
        else none

/-- With a throw time the switch first goes through its moving state. -/
def executeSetSwitchPosition (cmd : SetSwitchPositionCmd) (throwTimeTicks : Int) : List DeviceStateChange :=
  if throwTimeTicks > 0 then [.switchPositionChange cmd.uid .moving .command throwTimeTicks]
  else [.switchPositionChange cmd.uid cmd.position .command 0]

/-! ## R2: SetSignalAspect -/

def checkSetSignalAspect (state : EngineState) (cmd : SetSignalAspectCmd) : Option InterlockingViolation :=
  match state.findSignal cmd.uid with
  | none => violation nakNotFound ("Signal not found: " ++ uidStr cmd.uid) cmd.uid
  | some sig =>
    if sig.lockedByRouteUid.isSome then
      if cmd.aspect.isStop then none
      else
        violation nakRouteLocked ("Cannot change locked signal to proceed aspect: " ++ uidStr cmd.uid) cmd.uid
    else none

def executeSetSignalAspect (cmd : SetSignalAspectCmd) : List DeviceStateChange :=
  [.signalAspectChange cmd.uid cmd.aspect .command none]

/-! ## R3: SetDerailerPosition -/

def checkSetDerailerPosition (state : EngineState) (cmd : SetDerailerPositionCmd) :
    Option InterlockingViolation :=
  match state.findDerailer cmd.uid with
  | none => violation nakNotFound ("Derailer not found: " ++ uidStr cmd.uid) cmd.uid
  | some d =>
    match d.lockedByRouteUid with
    | some routeUid =>
      violation nakRouteLocked
        ("Derailer locked by route " ++ uidStr routeUid ++ ": " ++ uidStr cmd.uid) cmd.uid
    | none =>
      if cmd.position = .unlocked then
        match state.findTrackSection d.guardsSectionUid with
        | some guarded =>
          if guarded.occupancy = .occupied then
            violation nakSafetyBlock ("Guarded section is occupied: " ++ uidStr cmd.uid) cmd.uid
          else none
        | none => none
      else none

def executeSetDerailerPosition (cmd : SetDerailerPositionCmd) : List DeviceStateChange :=
  [.derailerStateChange cmd.uid cmd.position .command none]

/-! ## R4: SetBlockSection -/

def checkSetBlockSection (state : EngineState) (cmd : SetBlockSectionCmd) : Option InterlockingViolation :=
  match state.findBlockSection cmd.uid with
  | none => violation nakNotFound ("Block section not found: " ++ uidStr cmd.uid) cmd.uid
  | some bs =>
    if cmd.state = .closed ∧ bs.axleCount ≠ 0 then
      violation nakSafetyBlock
        ("Cannot close block section: axle count " ++ toString bs.axleCount ++ " != 0: " ++ uidStr cmd.uid)
        cmd.uid
    else none

def executeSetBlockSection (cmd : SetBlockSectionCmd) : List DeviceStateChange :=
  [.blockSectionStateChange cmd.uid cmd.state]

/-! ## R5: RequestRoute and CancelRoute -/

/-- Where a flank switch has to stand so that it leads away from the switch `uid`. -/
def deflectPosition (flankSw : Switch) (uid : UID) : SwitchPosition :=
  if flankSw.trunk.neighborUid = uid then .divergent
  else if flankSw.straight.neighborUid = uid then .divergent
  else if flankSw.divergent.neighborUid = uid then .straight
  else .straight

def flankNode (state : EngineState) (node : RoutePathNode) : Option RoutePathNode :=
  if node.kind = .switch then
    match state.findSwitch node.uid with
    | none => none
    | some sw =>
      let unusedLeg :=
        if node.requiredPosition = .straight then sw.divergent.neighborUid else sw.straight.neighborUid
      match state.findSwitch unusedLeg with
      | none => none
      | some flankSw =>
        some { kind := .switch, uid := flankSw.uid, requiredPosition := deflectPosition flankSw sw.uid }
  else none

def flankProtectionPolicy : IRoutePathPolicy := fun state path =>
  some { path with flankSwitches := path.flankSwitches ++ path.nodes.filterMap (flankNode state) }

def checkPathNode (state : EngineState) (node : RoutePathNode) : Option InterlockingViolation :=
  if node.kind = .switch then
    match state.findSwitch node.uid with
    | none => none
    | some sw =>
      if sw.occupancy = .occupied then
        violation nakSafetyBlock ("Switch occupied on route path: " ++ uidStr node.uid) node.uid
      else if sw.lockedByRouteUid.isSome then
        violation nakRouteLocked ("Switch locked by another route: " ++ uidStr node.uid) node.uid
      else if sw.position = .moving then
        violation nakSwitchMoving ("Switch is moving: " ++ uidStr node.uid) node.uid
      else none
  else none

def checkPathSection (state : EngineState) (uid : UID) : Option InterlockingViolation :=
  match state.findTrackSection uid with
  | none => none
  | some ts =>
    if ts.occupancy = .occupied then
      violation nakSafetyBlock ("Track section occupied on route path: " ++ uidStr uid) uid
    else none

def checkRequestRoute (state : EngineState) (cmd : RequestRouteCmd) (policies : List IRoutePathPolicy) :
    Option InterlockingViolation :=
  match state.findSignal cmd.fromSignalUid with
  | none =>
    violation nakNotFound ("Entry signal not found: " ++ uidStr cmd.fromSignalUid) cmd.fromSignalUid
  | some entry =>
    match state.findSignal cmd.toSignalUid with
    | none => violation nakNotFound ("Exit signal not found: " ++ uidStr cmd.toSignalUid) cmd.toSignalUid
    | some _ =>
      if entry.lockedByRouteUid.isSome then
        violation nakRouteLocked ("Entry signal already route-locked: " ++ uidStr cmd.fromSignalUid)
          cmd.fromSignalUid
      else
        match findRoutePath state cmd.fromSignalUid cmd.toSignalUid policies with
        | none =>
          violation nakNoPath
            ("No topology path from " ++ uidStr cmd.fromSignalUid ++ " to " ++ uidStr cmd.toSignalUid)
        | some path =>
          (path.nodes.findSome? (checkPathNode state)).or (path.sectionUids.findSome? (checkPathSection state))

/-- Throw a switch to the position a route needs, if it is not there yet, and lock it. -/
def lockSwitch (state : EngineState) (routeUid : UID) (node : RoutePathNode) : List DeviceStateChange :=
  match state.findSwitch node.uid with
  | none => []
  | some sw =>
    if sw.position ≠ node.requiredPosition then
      [.switchPositionChange node.uid node.requiredPosition .auto 0, .switchLocked node.uid routeUid]
    else [.switchLocked node.uid routeUid]

def unlockDerailer (state : EngineState) (routeUid uid : UID) : List DeviceStateChange :=
  match state.findDerailer uid with
  | none => []
  | some d => if d.state = .locked then [.derailerStateChange uid .unlocked .auto (some routeUid)] else []

/-- The entry `executeRequestRoute` adds; the flank switches join the switches of the path. -/
def routeState (state : EngineState) (cmd : RequestRouteCmd) (tick : Nat) (path : RoutePath) : RouteState where
  uid := makeRouteUid cmd.fromSignalUid cmd.toSignalUid tick
  fromSignalUid := cmd.fromSignalUid
  toSignalUid := cmd.toSignalUid
  sectionUids := path.sectionUids
  switchUids := path.switchUids ++
    (path.flankSwitches.filter (fun fnode => (state.findSwitch fnode.uid).isSome)).map RoutePathNode.uid
  derailerUids := path.derailerUids
  createdTick := tick

def executeRequestRoute (state : EngineState) (cmd : RequestRouteCmd) (tick : Nat)
    (policies : List IRoutePathPolicy) : List DeviceStateChange :=
  match findRoutePath state cmd.fromSignalUid cmd.toSignalUid policies with
  | none => []
  | some path =>
    let routeUid := makeRouteUid cmd.fromSignalUid cmd.toSignalUid tick
    (path.nodes.filter (fun node => node.kind = .switch)).flatMap (lockSwitch state routeUid) ++
      path.flankSwitches.flatMap (lockSwitch state routeUid) ++
      path.derailerUids.flatMap (unlockDerailer state routeUid) ++
      [.signalAspectChange cmd.fromSignalUid .s2Proceed .auto (some routeUid),
        .routeAdded (routeState state cmd tick path)]

def checkCancelRoute (state : EngineState) (cmd : CancelRouteCmd) : Option InterlockingViolation :=
  match state.findRoute cmd.routeUid with
  | none => violation nakNotFound ("Route not found: " ++ uidStr cmd.routeUid) cmd.routeUid
  | some route =>
    if ¬ cmd.force ∧ route.trainEntered then
      violation nakSafetyBlock ("Train has entered route; use force to cancel: " ++ uidStr cmd.routeUid)
        cmd.routeUid
    else none

def relockDerailer (state : EngineState) (uid : UID) : List DeviceStateChange :=
  match state.findDerailer uid with
  | none => []
  | some d => if d.state = .unlocked then [.derailerStateChange uid .locked .auto none] else []

def executeCancelRoute (state : EngineState) (cmd : CancelRouteCmd) : List DeviceStateChange :=
  match state.findRoute cmd.routeUid with
  | none => []
  | some route =>
    [.signalAspectChange route.fromSignalUid .s1Stop .command (some cmd.routeUid)] ++
      route.switchUids.map (fun uid => .switchUnlocked uid cmd.routeUid) ++
      route.derailerUids.flatMap (relockDerailer state) ++
      (if cmd.force then [.emergencyRouteReleaseExecuted cmd.routeUid] else []) ++
      [.routeRemoved cmd.routeUid (if cmd.force then "FORCE" else "OPERATOR_CANCEL")]

/-! ## R7: AcknowledgeAlarm -/

def checkAcknowledgeAlarm (state : EngineState) (cmd : AcknowledgeAlarmCmd) : Option InterlockingViolation :=
  match state.findAlarm cmd.alarmUid with
  | none => violation nakNotFound ("Alarm not found: " ++ uidStr cmd.alarmUid) cmd.alarmUid
  | some _ => none

def executeAcknowledgeAlarm (cmd : AcknowledgeAlarmCmd) : List DeviceStateChange :=
  [.alarmCleared cmd.alarmUid]

/-! ## Operator commands -/

/-- Whether the target of an operator command exists; both command families look it up alike. -/
def targetExists (state : EngineState) (targetUid : UID) : OperatorTargetKind → Bool
  | .signal => (state.findSignal targetUid).isSome
  | .switch => (state.findSwitch targetUid).isSome || (state.findDerailer targetUid).isSome
  | .derailer => (state.findDerailer targetUid).isSome
  | .trackSection => (state.findTrackSection targetUid).isSome
  | .blockSection => (state.findBlockSection targetUid).isSome
  | .axleCounterSystem | .station | .route | .levelCrossing | .interlockingComputer | .powerSupply =>
    targetUid.value ≠ 0

def checkOperatorSwitch (state : EngineState) (uid : UID) : Option InterlockingViolation :=
  match state.findSwitch uid with
  | none => none
  | some sw =>
    if sw.occupancy = .occupied then
      violation nakSafetyBlock ("Switch is occupied: " ++ uidStr uid) uid
    else if sw.lockedByRouteUid.isSome then
      violation nakRouteLocked ("Switch locked by route: " ++ uidStr uid) uid
    else if sw.position = .moving then
      violation nakSwitchMoving ("Switch is moving: " ++ uidStr uid) uid
    else none

def checkOperatorCommand (state : EngineState) (cmd : OperatorCommandCmd) : Option InterlockingViolation :=
  if ¬ targetExists state cmd.targetUid cmd.targetKind then
    violation nakNotFound ("Operator command target not found: " ++ uidStr cmd.targetUid) cmd.targetUid
  else
    match cmd.code with
    | .zwp | .zwm | .zbp | .zbm => checkOperatorSwitch state cmd.targetUid
    | .blz =>
      match state.findBlockSection cmd.targetUid with
      | none => none
      | some bs =>
        if bs.axleCount ≠ 0 then
          violation nakSafetyBlock "Cannot release block direction: axle count != 0" cmd.targetUid
        else none
    | _ => none

def stopAspect (sig : Signal) : SignalAspect :=
  if sig.type = .shunting then .ms1Stop else .s1Stop

def setSignalToStop (state : EngineState) (uid : UID) : List DeviceStateChange :=
  match state.findSignal uid with
  | none => []
  | some sig => [.signalAspectChange uid (stopAspect sig) .command none]

/-- A points command on a UID throws the switch, or moves the derailer where there is no switch. -/
def setPoints (state : EngineState) (uid : UID) (position : SwitchPosition) (derailer : DerailerState)
    (throwTimeTicks : Int) : List DeviceStateChange :=
  if (state.findSwitch uid).isSome then executeSetSwitchPosition ⟨uid, position⟩ throwTimeTicks
  else if (state.findDerailer uid).isSome then executeSetDerailerPosition ⟨uid, derailer⟩
  else []

/-- Confirmation of a block direction, by whichever side asked for it. -/
def confirmBlockDirection (state : EngineState) (uid : UID) : List DeviceStateChange :=
  match state.findBlockSection uid with
  | none => []
  | some bs =>
    [.blockDirectionChange uid (if bs.direction = .inboundPending then .inbound else .outbound) false,
      .blockSectionStateChange uid .open]

def executeOperatorCommand (state : EngineState) (cmd : OperatorCommandCmd) (throwTimeTicks : Int) :
    List DeviceStateChange :=
  .operatorCommandStateChange cmd.targetUid cmd.targetKind cmd.code true ::
    match cmd.code with
    | .ses => setSignalToStop state cmd.targetUid
    | .seo | .szo | .saw | .zwo | .ito | .ost | .ozk | .bto | .pdo | .upao | .zso =>
      [.operatorCommandStateChange cmd.targetUid cmd.targetKind cmd.code false]
    | .szw | .szn => [.signalAspectChange cmd.targetUid .s2Proceed .command none]
    | .zwp | .zbp => setPoints state cmd.targetUid .straight .locked throwTimeTicks
    | .zwm | .zbm => setPoints state cmd.targetUid .divergent .unlocked throwTimeTicks
    | .slk =>
      [.axleCounterResetChange cmd.targetUid cmd.targetKind,
        .operatorCommandStateChange cmd.targetUid cmd.targetKind cmd.code false]
    | .bls => [.blockSectionStateChange cmd.targetUid .closed]
    | .blw | .bpz => [.blockDirectionChange cmd.targetUid .outboundPending true]
    | .bpo | .bko | .btw | .poc | .pzw => [.blockSectionStateChange cmd.targetUid .closed]
    | .blp | .poz => confirmBlockDirection state cmd.targetUid
    | .blo | .blz | .bla | .ops | .dpw =>
      [.blockDirectionChange cmd.targetUid .neutral false, .blockSectionStateChange cmd.targetUid .closed]
    | .blai | .dpwi => [.blockDirectionChange cmd.targetUid .emergency false]
    | _ => []

/-! ## R8: SetBlockDirection -/

def blockDirectionCode : BlockDirectionState → Nat
  | .neutral => 0
  | .outboundPending => 1
  | .outbound => 2
  | .inboundPending => 3
  | .inbound => 4
  | .emergency => 5
  | .resetPending => 6

def checkSetBlockDirection (state : EngineState) (cmd : SetBlockDirectionCmd) :
    Option InterlockingViolation :=
  match state.findBlockSection cmd.blockSectionUid with
  | none =>
    violation nakNotFound ("Block section not found: " ++ uidStr cmd.blockSectionUid) cmd.blockSectionUid
  | some bs =>
    match cmd.operation with
    | .blw =>
      if bs.direction ≠ .neutral then
        violation nakInvalidState
          ("BLW requires NEUTRAL direction, current: " ++ toString (blockDirectionCode bs.direction))
          cmd.blockSectionUid
      else none
    | .blp =>
      if bs.direction ≠ .outboundPending ∧ bs.direction ≠ .inboundPending then
        violation nakInvalidState "BLP requires OUTBOUND_PENDING or INBOUND_PENDING" cmd.blockSectionUid
      else none
    | .blo =>
      if bs.direction ≠ .outboundPending then
        violation nakInvalidState "BLO requires OUTBOUND_PENDING" cmd.blockSectionUid
      else none
    | .blz =>
      if bs.direction ≠ .outbound ∧ bs.direction ≠ .inbound then
        violation nakInvalidState "BLZ requires OUTBOUND or INBOUND" cmd.blockSectionUid
      else if bs.axleCount ≠ 0 then
        violation nakSafetyBlock "Cannot release direction: axle count != 0" cmd.blockSectionUid
      else none
    | .blai =>
      if bs.direction = .resetPending then
        violation nakInvalidState "BLAI not allowed in RESET_PENDING state" cmd.blockSectionUid
      else none
    | .bla =>
      if bs.direction ≠ .emergency then
        violation nakInvalidState "BLA requires EMERGENCY state" cmd.blockSectionUid
      else none
    | .ops =>
      if bs.direction ≠ .emergency ∧ bs.direction ≠ .resetPending then
        violation nakInvalidState "OPS requires EMERGENCY or RESET_PENDING state" cmd.blockSectionUid
      else none

def executeSetBlockDirection (state : EngineState) (cmd : SetBlockDirectionCmd) : List DeviceStateChange :=
  let uid := cmd.blockSectionUid
  match state.findBlockSection uid with
  | none => []
  | some bs =>
    match cmd.operation with
    | .blw => [.blockDirectionChange uid .outboundPending true]
    | .blp =>
      if bs.direction = .outboundPending then
        [.blockDirectionChange uid .outbound false, .blockSectionStateChange uid .open]
      else [.blockDirectionChange uid .inbound false, .blockSectionStateChange uid .open]
    | .blo => [.blockDirectionChange uid .neutral false]
    | .blai => [.blockDirectionChange uid .emergency false]
    | .blz | .bla | .ops => [.blockDirectionChange uid .neutral false, .blockSectionStateChange uid .closed]

/-! ## R9 and R10: axle counter reset -/

def checkInitAxleCounterReset (state : EngineState) (cmd : InitAxleCounterResetCmd) :
    Option InterlockingViolation :=
  match state.findBlockSection cmd.blockSectionUid with
  | none =>
    violation nakNotFound ("Block section not found: " ++ uidStr cmd.blockSectionUid) cmd.blockSectionUid
  | some bs =>
    if bs.direction ≠ .neutral then
      violation nakInvalidState "SLI requires NEUTRAL direction" cmd.blockSectionUid
    else none

def executeInitAxleCounterReset (cmd : InitAxleCounterResetCmd) : List DeviceStateChange :=
  [.blockDirectionChange cmd.blockSectionUid .resetPending false]

def checkResetAxleCounter (state : EngineState) (cmd : ResetAxleCounterCmd) : Option InterlockingViolation :=
  match state.findBlockSection cmd.blockSectionUid with
  | none =>
    violation nakNotFound ("Block section not found: " ++ uidStr cmd.blockSectionUid) cmd.blockSectionUid
  | some bs =>
    if bs.direction ≠ .resetPending then
      violation nakInvalidState "SLK requires RESET_PENDING state" cmd.blockSectionUid
    else
      match bs.resetInitTick with
      | none => violation nakSafetyBlock "SLK requires 60s delay after SLI" cmd.blockSectionUid
      | some initTick =>
        if state.currentTick < initTick + 60 * engineTicksPerSecond then
          violation nakSafetyBlock "SLK requires 60s delay after SLI" cmd.blockSectionUid
        else none

def executeResetAxleCounter (cmd : ResetAxleCounterCmd) : List DeviceStateChange :=
  [.blockDirectionChange cmd.blockSectionUid .neutral false, .blockSectionStateChange cmd.blockSectionUid .closed]

/-! ## Tick helpers -/

/-- The position each switch in motion is meant to end in. -/
abbrev PendingTargets := UID → Option SwitchPosition

def PendingTargets.set (targets : PendingTargets) (uid : UID) (position : SwitchPosition) : PendingTargets :=
  fun u => if u = uid then some position else targets u

def PendingTargets.erase (targets : PendingTargets) (uid : UID) : PendingTargets :=
  fun u => if u = uid then none else targets u

def tickSwitchMachine (targets : PendingTargets) (sw : Switch) : List DeviceStateChange × PendingTargets :=
  if sw.position ≠ .moving then ([], targets.erase sw.uid)
  else if sw.movingTicksRemaining ≤ 0 ∨ sw.movingTicksRemaining - 1 = 0 then
    ([.switchPositionChange sw.uid ((targets sw.uid).getD .straight) .auto 0], targets.erase sw.uid)
  else ([.switchPositionChange sw.uid .moving .auto (sw.movingTicksRemaining - 1)], targets)

def tickSwitchMachines (state : EngineState) (targets : PendingTargets) :
    List DeviceStateChange × PendingTargets :=
  state.switches.values.foldl
    (fun (changes, targets) sw =>
      let (new, targets) := tickSwitchMachine targets sw
      (changes ++ new, targets))
    ([], targets)

def sectionsFree (state : EngineState) (sectionUids : List UID) : Bool :=
  sectionUids.all fun uid =>
    match state.findTrackSection uid with
    | none => true
    | some ts => ts.occupancy ≠ .occupied

def releaseRoute (state : EngineState) (currentTick : Nat) (route : RouteState) : List DeviceStateChange :=
  if ¬ route.trainEntered then []
  else if ¬ sectionsFree state route.sectionUids then []
  else
    match route.overlapReleaseTick with
    | none => [.routeOverlapTimerStarted route.uid (currentTick + 60 * engineTicksPerSecond)]
    | some releaseTick =>
      if currentTick < releaseTick then []
      else
        [.signalAspectChange route.fromSignalUid .s1Stop .auto (some route.uid)] ++
          route.switchUids.map (fun uid => .switchUnlocked uid route.uid) ++
          [.routeRemoved route.uid "TRAIN_CLEARED"]

def tickRouteAutoRelease (state : EngineState) (currentTick : Nat) : List DeviceStateChange :=
  state.routes.values.flatMap (releaseRoute state currentTick)

end Symulator.Srk
