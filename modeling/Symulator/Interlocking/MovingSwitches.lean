import Symulator.Interlocking.CommandedThrow
import Symulator.Library.Traces
import Symulator.Server.CommandIngress
import Symulator.Srk.LockAgreement

/-! # Switches in motion

The machine of a switch is set in motion with its countdown, and every turn of the engine leaves it alone, counts
it down or settles it on one of its legs. So no machine is ever in motion with nothing left to count.
-/

namespace Symulator.Interlocking

open Symulator.Library Symulator.Engine Symulator.Srk Symulator.Server

set_option autoImplicit false

/-- The switch lies on one of its legs. -/
def Settled (position : SwitchPosition) : Prop := position = .straight ∨ position = .divergent

/-- What one turn makes of the machine of a switch. -/
inductive MachineTurn (throwTicks : Int) (isTick : Bool) : SwitchPosition × Int → SwitchPosition × Int → Prop
  | rests {machine : SwitchPosition × Int} (hAtRest : machine.1 ≠ .moving) :
      MachineTurn throwTicks isTick machine machine
  | waits {machine : SwitchPosition × Int} (hTick : isTick = false) : MachineTurn throwTicks isTick machine machine
  | counts {ticks : Int} (hTick : isTick = true) (hMore : 1 < ticks) :
    MachineTurn throwTicks isTick (.moving, ticks) (.moving, ticks - 1)
  | starts {machine : SwitchPosition × Int} (hAtRest : machine.1 ≠ .moving) (hThrow : 0 < throwTicks) :
    MachineTurn throwTicks isTick machine (.moving, throwTicks)
  | settles {machine : SwitchPosition × Int} {position : SwitchPosition} (hSettled : Settled position) :
    MachineTurn throwTicks isTick machine (position, 0)

/-- A machine in motion has between one tick and its throw time left. -/
def Live (throwTicks : Int) (machine : SwitchPosition × Int) : Prop :=
  machine.1 = .moving → 1 ≤ machine.2 ∧ machine.2 ≤ throwTicks

theorem MachineTurn.live {throwTicks : Int} {isTick : Bool} {machine machine' : SwitchPosition × Int}
    (h : MachineTurn throwTicks isTick machine machine') (hLive : Live throwTicks machine) :
    Live throwTicks machine' := by
  cases h with
  | rests hAtRest => exact hLive
  | waits hTick => exact hLive
  | @counts ticks hTick hMore =>
    obtain ⟨-, hMost⟩ := hLive rfl
    intro _
    exact ⟨Int.le_sub_one_of_lt hMore, (Int.sub_le_self ticks (by decide)).trans hMost⟩
  | starts hAtRest hThrow =>
    intro _
    exact ⟨hThrow, le_refl throwTicks⟩
  | settles hSettled =>
    intro hMoving
    rcases hSettled with rfl | rfl <;> cases hMoving

/-- A machine in motion is settled by its turn, or goes on with one tick less after a tick. -/
theorem MachineTurn.of_moving {throwTicks : Int} {isTick : Bool} {ticks : Int} {machine' : SwitchPosition × Int}
    (h : MachineTurn throwTicks isTick (.moving, ticks) machine') :
    Settled machine'.1 ∨ machine' = (.moving, if isTick = true then ticks - 1 else ticks) := by
  cases h with
  | rests hAtRest => exact absurd rfl hAtRest
  | waits hTick => exact Or.inr (by rw [hTick]; rfl)
  | counts hTick hMore => exact Or.inr (by rw [hTick]; rfl)
  | starts hAtRest hThrow => exact absurd rfl hAtRest
  | settles hSettled => exact Or.inl hSettled

/-! ## One step -/

/-- A command to a switch asks for one of its legs. -/
def AsksSettled : Command → Prop
  | .setSwitchPosition cmd => Settled cmd.position
  | _ => True

def TargetsSettled (sys : ControlSystem) : Prop :=
  ∀ u position, sys.pendingTargets u = some position → Settled position

theorem settled_pointsEffect {s : EngineState} {uid u : UID} {position p : SwitchPosition} {derailer : DerailerState}
    (h : pointsEffect s uid position derailer = .switch u p) (hSettled : Settled position) : Settled p := by
  obtain ⟨-, rfl, -⟩ := pointsEffect_eq_switch h
  exact hSettled

theorem settled_effectOf {sys : ControlSystem} {s : EngineState} {cmd : Command} (hAsks : AsksSettled cmd) {u : UID}
    {position : SwitchPosition} (hEffect : sys.effectOf s cmd = .switch u position) : Settled position := by
  cases cmd
  case setSwitchPosition cmd =>
    cases hEffect
    exact hAsks
  case operatorCommand cmd =>
    obtain ⟨uid, kind, code⟩ := cmd
    cases code
    case zwp | zbp => exact settled_pointsEffect hEffect (Or.inl rfl)
    case zwm | zbm => exact settled_pointsEffect hEffect (Or.inr rfl)
    case ses => rcases stopEffect_eq hEffect with hEq | ⟨_, _, hEq⟩ <;> cases hEq
    all_goals cases hEffect
  case ml8Command cmd =>
    obtain ⟨sysKind, throwTimeTicks, targets⟩ := sys
    cases sysKind with
    | ebilock => cases hEffect
    | ml8 => exact Or.inr (ml8Effect_eq_switch hEffect).2.2.1
  all_goals cases hEffect

theorem required_switchNodes {s : EngineState} {fromSignalUid toSignalUid : UID} {rp : RoutePath}
    (h : IsRoutePath s fromSignalUid toSignalUid rp) {node : RoutePathNode} (hNode : node ∈ switchNodes rp) :
    Settled node.requiredPosition := by
  rcases List.mem_append.mp hNode with hPath | hFlank
  · exact h.required node (List.mem_filter.mp hPath).1
  · -- a flank switch is turned away from the path, which is one of its legs as well
    rw [h.flank] at hFlank
    obtain ⟨pathNode, -, hFlank⟩ := List.mem_filterMap.mp hFlank
    obtain ⟨-, sw, flankSw, -, -, -, hRequired⟩ := flankNode_cases hFlank
    rw [hRequired, deflectPosition]
    split
    · exact Or.inr rfl
    split
    · exact Or.inr rfl
    split
    · exact Or.inl rfl
    · exact Or.inl rfl

theorem rel_map {α : Type} {R : α → α → Prop} {f : α → α} {o : Option α} (h : ∀ a ∈ o, R a (f a)) :
    Option.Rel R o (o.map f) := by
  cases o with
  | none => exact .none
  | some a => exact .some (h a rfl)

theorem rel_self {throwTicks : Int} (o : Option (SwitchPosition × Int)) :
    Option.Rel (MachineTurn throwTicks false) o o := by
  cases o with
  | none => exact .none
  | some machine => exact .some (.waits rfl)

theorem machineTurn_effect {sys : ControlSystem} {s : EngineState} {cmd : Command} (hAsks : AsksSettled cmd)
    (hCheck : sys.checkCommand s cmd = none) {u : UID} {machine : SwitchPosition × Int}
    (hMachine : (switchMachine u).read s = some machine) :
    MachineTurn sys.eea4ThrowTicks false machine
      (lastWrite (switchMachineWrite u) machine ((sys.effectOf s cmd).changes sys.eea4ThrowTicks)) := by
  cases hEffect : sys.effectOf s cmd with
  | quiet => exact .waits rfl
  | signal uid aspect => exact .waits rfl
  | derailer uid state => exact .waits rfl
  | switch uid position =>
    obtain ⟨sw, hFind, -, hAtRest, -⟩ := checked_switch hCheck hEffect
    have hSettled := settled_effectOf hAsks hEffect
    by_cases hUid : u = uid
    · subst hUid
      have hHeld : machine = (sw.position, sw.movingTicksRemaining) := by
        simpa [switchMachine, hFind] using hMachine.symm
      subst hHeld
      simp only [CommandEffect.changes, executeSetSwitchPosition]
      split
      · rename_i hThrow
        simpa [switchMachineWrite] using MachineTurn.starts hAtRest hThrow
      · simpa [switchMachineWrite] using MachineTurn.settles hSettled
    · simp only [CommandEffect.changes, executeSetSwitchPosition]
      split
      all_goals simpa [switchMachineWrite, hUid] using MachineTurn.waits rfl

/-- A route settles the switches it throws, whether they are in motion or not. -/
theorem machineTurn_request {s : EngineState} {cmd : RequestRouteCmd} {rp : RoutePath} (hGranted : Granted s cmd rp)
    {tick : Nat} {u : UID} {throwTicks : Int} {machine : SwitchPosition × Int} :
    MachineTurn throwTicks false machine
      (lastWrite (switchMachineWrite u) machine (executeRequestRoute s cmd tick kPolicies)) := by
  have hLast := @lastWrite_mem_or _ _ (switchMachineWrite u) machine (executeRequestRoute s cmd tick kPolicies)
  rcases hLast with hSame | ⟨c, hc, hWrite⟩
  · rw [hSame]
    exact .waits rfl
  · have hIs := hGranted.isRoutePath
    rcases (mem_executeRequestRoute hGranted.found).mp hc with ⟨node, hNode, hc⟩ | ⟨uid, -, hc⟩ | rfl | rfl
    · obtain ⟨sw, -, rfl | ⟨-, rfl⟩⟩ := mem_lockSwitch.mp hc
      · cases hWrite
      · simp only [switchMachineWrite, Option.ite_none_right_eq_some, Option.some.injEq] at hWrite
        rw [← hWrite.2]
        exact .settles (required_switchNodes hIs hNode)
    · obtain ⟨d, -, -, rfl⟩ := mem_unlockDerailer.mp hc
      cases hWrite
    · cases hWrite
    · cases hWrite

theorem machineWrites_cancel (s : EngineState) (cmd : CancelRouteCmd) (u : UID) :
    ∀ c ∈ executeCancelRoute s cmd, switchMachineWrite u c = none :=
  forall_mem_cancel rfl (fun _ => rfl) (fun _ => rfl) (fun _ => rfl) (fun _ => rfl)

theorem machineTurn_tick {target : Option SwitchPosition}
    (hTarget : ∀ position, target = some position → Settled position)
    (throwTicks : Int) (machine : SwitchPosition × Int) :
    MachineTurn throwTicks true machine (machineAfterTick target machine) := by
  obtain ⟨position, ticks⟩ := machine
  by_cases hMoving : position = .moving
  · subst hMoving
    rw [machineAfterTick, if_pos rfl]
    split
    · cases target with
      | none => exact .settles (Or.inl rfl)
      | some position => exact .settles (hTarget position rfl)
    · rename_i hMore
      exact .counts rfl (not_le.mp hMore)
  · rw [machineAfterTick, if_neg hMoving]
    exact .rests hMoving

section Steps

variable {φ : Type} {dynamics : TrainDynamics φ} {w w' : World φ} {a : Action φ}

theorem machineTurn_step (hTargets : TargetsSettled w.control) (hAsks : ∀ cmd, a = .command cmd → AsksSettled cmd)
    (hStep : w.step dynamics a = some w') (u : UID) :
    Option.Rel (MachineTurn w.control.eea4ThrowTicks (isOnTick a)) ((switchMachine u).read w.state)
      ((switchMachine u).read w'.state) := by
  cases stepEffect_of_step hStep with
  | command cmd hKind hCheck hState =>
    rw [hState, read_changesOf (switchMachine u) (fun _ => switchMachineWrite_of_isQuiet u) _ _ hKind]
    exact rel_map fun machine hMachine => machineTurn_effect (hAsks cmd rfl) hCheck hMachine
  | request cmd rp hGranted hState =>
    rw [hState, applyAll, Register.read_foldl]
    exact rel_map fun machine _ => machineTurn_request hGranted
  | cancel cmd route hFind hState =>
    rw [hState, applyAll, Register.read_foldl_of_silent _ _ (machineWrites_cancel _ cmd u)]
    exact rel_self _
  | tick hState =>
    cases hMachine : (switchMachine u).read w.state with
    | none =>
      rw [hState, applyAll, Register.read_foldl, hMachine]
      exact .none
    | some machine =>
      rw [hState, (switchMachine_onTick hMachine).1]
      exact .some (machineTurn_tick (hTargets u) _ machine)
  | other _ hCommand hTick hSame =>
    have hRead : (switchMachine u).read w'.state = (switchMachine u).read w.state := by
      simp only [switchMachine, EngineState.findSwitch, hSame.switches]
    have hQuiet : isOnTick a = false := by
      cases a <;> first | rfl | exact absurd rfl hTick
    rw [hRead, hQuiet]
    exact rel_self _

/-! ## The targets on record -/

theorem settled_set {targets : PendingTargets} {uid : UID} {position : SwitchPosition}
    (h : ∀ u p, targets u = some p → Settled p) (hSettled : Settled position) :
    ∀ u p, targets.set uid position u = some p → Settled p := by
  intro u p hp
  rw [PendingTargets.set] at hp
  split at hp
  · cases hp
    exact hSettled
  · exact h u p hp

theorem target_tickSwitchMachine_mem {targets : PendingTargets} {sw : Switch} {u : UID} {p : SwitchPosition}
    (h : (tickSwitchMachine targets sw).2 u = some p) : targets u = some p := by
  by_cases hUid : sw.uid = u
  · subst hUid
    unfold tickSwitchMachine at h
    split at h
    · simp [PendingTargets.erase] at h
    · split at h
      · simp [PendingTargets.erase] at h
      · exact h
  · rwa [targets_tickSwitchMachine hUid] at h

theorem target_foldl_machinesStep {u : UID} {p : SwitchPosition} {sws : List Switch}
    {acc : List DeviceStateChange × PendingTargets} (h : (sws.foldl machinesStep acc).2 u = some p) :
    acc.2 u = some p := by
  induction sws generalizing acc with
  | nil => exact h
  | cons sw sws ih =>
    have hRest : (machinesStep acc sw).2 u = some p := ih h
    exact target_tickSwitchMachine_mem hRest

theorem targetsSettled_targetsAfter {sys : ControlSystem} {s : EngineState} {cmd : Command}
    (hTargets : TargetsSettled sys)
    (hAsks : AsksSettled cmd) : ∀ u p, sys.targetsAfter s cmd u = some p → Settled p := by
  cases cmd
  case setSwitchPosition cmd =>
    simp only [ControlSystem.targetsAfter]
    split
    · exact settled_set hTargets hAsks
    · exact hTargets
  case ml8Command cmd =>
    obtain ⟨uid, kind, code⟩ := cmd
    obtain ⟨sysKind, throwTimeTicks, targets⟩ := sys
    cases sysKind with
    | ebilock => exact hTargets
    | ml8 =>
      cases code
      case pz | dpz =>
        simp only [ControlSystem.targetsAfter]
        split
        · exact settled_set hTargets (Or.inr rfl)
        · exact hTargets
      all_goals exact hTargets
  all_goals exact hTargets

/-- A step keeps the throw time, and puts no target on record but a leg. -/
theorem control_step (hTargets : TargetsSettled w.control) (hAsks : ∀ cmd, a = .command cmd → AsksSettled cmd)
    (hStep : w.step dynamics a = some w') :
    w'.control.eea4ThrowTicks = w.control.eea4ThrowTicks ∧ TargetsSettled w'.control := by
  cases a with
  | command cmd =>
    obtain ⟨-, rfl⟩ := World.step_command.mp hStep
    exact ⟨rfl, targetsSettled_targetsAfter hTargets (hAsks cmd rfl)⟩
  | onTick =>
    cases hStep
    exact ⟨rfl, fun u p h => hTargets u p (target_foldl_machinesStep h)⟩
  | fleetCommand cmd =>
    rw [(World.step_fleetCommand.mp hStep).2]
    exact ⟨rfl, hTargets⟩
  | tickTrains =>
    rw [(World.step_tickTrains hStep).2.2.2]
    exact ⟨rfl, hTargets⟩
  | advanceTick =>
    cases hStep
    exact ⟨rfl, hTargets⟩

end Steps

/-! ## Turns of the engine -/

/-- What a command from the wire leaves where its check finds no violation. A byte that is cast to an enumeration and
names no enumerator is kept by the signal or the operator state it is written to; here it is shown as any enumerator. -/
inductive Takes {φ : Type} (dynamics : TrainDynamics φ) (w : World φ) : HeldCommand → World φ → Prop
  | declared {cmd : Command} {w' : World φ} (hStep : w.step dynamics (.command cmd) = some w') :
    Takes dynamics w (held cmd) w'
  | unknownAspect {uid : UID} {aspect : Byte} {sig : Signal} (shown : SignalAspect)
      (hAspect : ¬ Enumeration.IsDeclared SignalAspect aspect) (hFind : w.state.findSignal uid = some sig)
      (hFree : sig.lockedByRouteUid = none) :
    Takes dynamics w (.setSignalAspect uid aspect) { w with state := w.state.applySignalAspect uid shown }
  | unknownOperation {uid : UID} {operation : Byte} (hOperation : ¬ Enumeration.IsDeclared Shl12Op operation)
      (hCheck : CommandIngress.checkSetBlockDirectionHeld w.state uid operation = none) :
    Takes dynamics w (.setBlockDirection uid operation) w
  | unknownCode {uid : UID} {kind : OperatorTargetKind} {code : Byte}
      (hCode : ¬ Enumeration.IsDeclared OperatorCommandCode code) (hTarget : targetExists w.state uid kind = true) :
    Takes dynamics w (.operatorCommand uid (Enumeration.value kind) code)
      { w with state := w.state.modifyOperatorState uid kind fun st => { st with specialActive := true } }
  | unknownMl8Code {uid : UID} {kind : OperatorTargetKind} {code : Byte} (recorded : Ml8CommandCode)
      (hCode : ¬ Enumeration.IsDeclared Ml8CommandCode code) (hSystem : w.control.kind = .ml8)
      (hTarget : targetExists w.state uid kind = true) :
    Takes dynamics w (.ml8Command uid (Enumeration.value kind) code)
      { w with state := w.state.applyMl8CommandState uid kind recorded true }

/-- The engine takes a command that was sent to it, or does a part of its own loop. -/
inductive Turn (φ : Type)
  | payload (bytes : List Byte)
  | loop (action : Action φ)

def Turn.isTick {φ : Type} : Turn φ → Bool
  | .payload _ => false
  | .loop action => isOnTick action

inductive TurnStep {φ : Type} (dynamics : TrainDynamics φ) (tables : CommandTables) (w : World φ) :
    Turn φ → World φ → Prop
  | payload {bytes : List Byte} {cmd : HeldCommand} {w' : World φ}
      (hParse : CommandIngress.parsePayload tables bytes = some cmd) (hTakes : Takes dynamics w cmd w') :
    TurnStep dynamics tables w (.payload bytes) w'
  | loop {action : Action φ} {w' : World φ} (hOwn : ∀ cmd, action ≠ .command cmd)
      (hStep : w.step dynamics action = some w') : TurnStep dynamics tables w (.loop action) w'

theorem settled_fromProtoSwitchPosition (b : Byte) : Settled (fromProtoSwitchPosition b) := by
  unfold fromProtoSwitchPosition
  split
  · exact Or.inl rfl
  split
  · exact Or.inr rfl
  · exact Or.inl rfl

theorem commandOf_ne_some {τ : Type} {table : Option τ} {uid : τ → UInt64} {make : τ → HeldCommand} {cmd : HeldCommand}
    (hMake : ∀ msg, make msg ≠ cmd) : CommandIngress.commandOf table uid make ≠ some cmd := by
  intro h
  obtain ⟨msg, -, -, hEq⟩ := CommandIngress.commandOf_eq_some.mp h
  exact hMake msg hEq

theorem ite_ne {γ : Type} {p : Prop} [Decidable p] {x y z : γ} (hx : x ≠ z) (hy : y ≠ z) :
    (if p then x else y) ≠ z := by
  split
  · exact hx
  · exact hy

/-- Only the switch command type gives a switch command. -/
theorem parseCommand_ne_setSwitchPosition {tables : CommandTables} {cmdType : Byte} {fbData : List Byte} {uid : UID}
    {position : Byte} (hType : cmdType ≠ Cmd.kSetSwitchPosition) :
    CommandIngress.parseCommand tables cmdType fbData ≠ some (.setSwitchPosition uid position) := by
  have hNone : (none : Option HeldCommand) ≠ some (.setSwitchPosition uid position) := (Option.some_ne_none _).symm
  rw [CommandIngress.parseCommand, if_neg hType]
  refine ite_ne ?_ (ite_ne ?_ (ite_ne ?_ (ite_ne ?_ (ite_ne ?_ (ite_ne ?_ (ite_ne ?_ (ite_ne ?_ (ite_ne ?_
    (ite_ne ?_ (ite_ne ?_ hNone))))))))))
  case refine_4 =>
    split
    · exact hNone
    · exact ite_ne hNone (by simp)
  all_goals exact commandOf_ne_some fun msg => by simp

/-- Whatever the byte of a position is, the command asks for a leg. -/
theorem settled_parsePayload {tables : CommandTables} {bytes : List Byte} {uid : UID} {position : Byte}
    (h : CommandIngress.parsePayload tables bytes = some (.setSwitchPosition uid position)) :
    ∃ p, Settled p ∧ Enumeration.value p = position := by
  cases bytes with
  | nil => cases h
  | cons cmdType fbData =>
    rw [CommandIngress.parsePayload] at h
    by_cases hType : cmdType = Cmd.kSetSwitchPosition
    · subst hType
      obtain ⟨msg, -, -, hMake⟩ := CommandIngress.commandOf_eq_some.mp h
      cases hMake
      exact ⟨_, settled_fromProtoSwitchPosition msg.position, rfl⟩
    · exact absurd h (parseCommand_ne_setSwitchPosition hType)

/-! ## Every run -/

section Runs

variable {φ : Type} {dynamics : TrainDynamics φ} {tables : CommandTables}

theorem asksSettled_of_parsePayload {bytes : List Byte} {cmd : Command}
    (h : CommandIngress.parsePayload tables bytes = some (held cmd)) : AsksSettled cmd := by
  cases cmd
  case setSwitchPosition cmd =>
    obtain ⟨p, hSettled, hValue⟩ := settled_parsePayload h
    rw [AsksSettled, ← Enumeration.value_injective hValue]
    exact hSettled
  all_goals trivial

theorem switchMachine_modifyOperatorState (s : EngineState) (uid : UID) (kind : OperatorTargetKind)
    (f : OperatorCommandRuntimeState → OperatorCommandRuntimeState) (u : UID) :
    (switchMachine u).read (s.modifyOperatorState uid kind f) = (switchMachine u).read s := by
  simp only [switchMachine, EngineState.findSwitch, find_modifyOperatorState_switches, Option.map_map]
  congr 1
  funext sw
  simp only [Function.comp_apply]
  split <;> rfl

/-- Every turn keeps the throw time and the targets, and takes one turn of every machine. -/
theorem turn_spec {w w' : World φ} {turn : Turn φ} (hTargets : TargetsSettled w.control)
    (hTurn : TurnStep dynamics tables w turn w') :
    (w'.control.eea4ThrowTicks = w.control.eea4ThrowTicks ∧ TargetsSettled w'.control) ∧
      ∀ u, Option.Rel (MachineTurn w.control.eea4ThrowTicks turn.isTick) ((switchMachine u).read w.state)
        ((switchMachine u).read w'.state) := by
  cases hTurn with
  | loop hOwn hStep =>
    have hAsks : ∀ cmd, _ = Action.command cmd → AsksSettled cmd := fun cmd hCmd => absurd hCmd (hOwn cmd)
    exact ⟨control_step hTargets hAsks hStep, machineTurn_step hTargets hAsks hStep⟩
  | payload hParse hTakes =>
    cases hTakes with
    | @declared cmd _ hStep =>
      have hAsks : ∀ cmd', Action.command cmd = (Action.command cmd' : Action φ) → AsksSettled cmd' := by
        rintro _ ⟨⟩
        exact asksSettled_of_parsePayload hParse
      exact ⟨control_step hTargets hAsks hStep, machineTurn_step hTargets hAsks hStep⟩
    | unknownAspect shown hAspect hFind hFree => exact ⟨⟨rfl, hTargets⟩, fun u => rel_self _⟩
    | unknownOperation hOperation hCheck => exact ⟨⟨rfl, hTargets⟩, fun u => rel_self _⟩
    | unknownCode hCode hTarget =>
      refine ⟨⟨rfl, hTargets⟩, fun u => ?_⟩
      rw [switchMachine_modifyOperatorState]
      exact rel_self _
    | unknownMl8Code recorded hCode hSystem hTarget =>
      refine ⟨⟨rfl, hTargets⟩, fun u => ?_⟩
      rw [EngineState.applyMl8CommandState, switchMachine_modifyOperatorState]
      exact rel_self _

/-- The throw time is `throwTicks`, every machine in motion is within it, and every target on record is a leg. -/
structure MachinesLive (throwTicks : Int) (w : World φ) : Prop where
  throwTime : w.control.eea4ThrowTicks = throwTicks
  targets : TargetsSettled w.control
  live : ∀ u machine, (switchMachine u).read w.state = some machine → Live throwTicks machine

theorem MachinesLive.turn {throwTicks : Int} {w w' : World φ} {turn : Turn φ} (h : MachinesLive throwTicks w)
    (hTurn : TurnStep dynamics tables w turn w') : MachinesLive throwTicks w' := by
  obtain ⟨⟨hThrow, hTargets⟩, hMachines⟩ := turn_spec h.targets hTurn
  refine ⟨hThrow.trans h.throwTime, hTargets, fun u machine' hRead => ?_⟩
  have hMachine := hMachines u
  rw [hRead, h.throwTime] at hMachine
  cases hBefore : (switchMachine u).read w.state with
  | none =>
    rw [hBefore] at hMachine
    cases hMachine
  | some machine =>
    rw [hBefore, Option.rel_some_some] at hMachine
    exact hMachine.live (h.live u machine hBefore)

theorem machinesLive_of_loaded {w : World φ} (hLoaded : w.Loaded)
    (hTargets : w.control.pendingTargets = fun _ => none) : MachinesLive w.control.eea4ThrowTicks w := by
  refine ⟨rfl, fun u position hPosition => ?_, fun u machine hRead hMoving => ?_⟩
  · rw [hTargets] at hPosition
    cases hPosition
  · obtain ⟨sw, hFind, rfl⟩ := Option.map_eq_some_iff.mp hRead
    have hStraight := (hLoaded.fresh.switches sw (KeyedMap.find_eq_some_iff.mp hFind).1).1
    cases hStraight.symm.trans hMoving

/-- Every switch in motion has a countdown within its throw time, no tick finds one in motion with nothing left to
count, and each is settled before more ticks have passed than it counts. -/
structure CountsDown (dynamics : TrainDynamics φ) (tables : CommandTables) (w : World φ) : Prop where
  counting : ∀ u sw, w.state.findSwitch u = some sw → sw.position = .moving →
    1 ≤ sw.movingTicksRemaining ∧ sw.movingTicksRemaining ≤ w.control.eea4ThrowTicks
  noFallback : ∀ sw ∈ w.state.switches.values, ¬ (sw.position = .moving ∧ sw.movingTicksRemaining ≤ 0)
  lands : ∀ u sw, w.state.findSwitch u = some sw → sw.position = .moving →
    ∀ turns w', Trace (TurnStep dynamics tables) w turns w' → sw.movingTicksRemaining ≤ turns.countP Turn.isTick →
      ∃ before after v, turns = before ++ after ∧ Trace (TurnStep dynamics tables) w before v ∧
        Trace (TurnStep dynamics tables) v after w' ∧ (before.countP Turn.isTick : Int) ≤ sw.movingTicksRemaining ∧
        ∃ sw', v.state.findSwitch u = some sw' ∧ Settled sw'.position

theorem MachinesLive.lands {throwTicks : Int} {w w' : World φ} (h : MachinesLive throwTicks w) {u : UID} {ticks : Int}
    (hMoving : (switchMachine u).read w.state = some (.moving, ticks)) {turns : List (Turn φ)}
    (hTrace : Trace (TurnStep dynamics tables) w turns w') (hEnough : ticks ≤ turns.countP Turn.isTick) :
    ∃ before after v, turns = before ++ after ∧ Trace (TurnStep dynamics tables) w before v ∧
      Trace (TurnStep dynamics tables) v after w' ∧ (before.countP Turn.isTick : Int) ≤ ticks ∧
      ∃ sw', v.state.findSwitch u = some sw' ∧ Settled sw'.position := by
  let waits : World φ → Int → Prop := fun v n => (switchMachine u).read v.state = some (.moving, n)
  have hLeft : ∀ {v n}, MachinesLive throwTicks v → waits v n → 1 ≤ n :=
    fun hLive hWaits => (hLive.live u _ hWaits rfl).1
  have hKeep : ∀ {v turn v'}, MachinesLive throwTicks v → TurnStep dynamics tables v turn v' →
      MachinesLive throwTicks v' :=
    fun hLive hTurn => hLive.turn hTurn
  refine Trace.exists_done @hKeep @hLeft ?_ hTrace h hMoving hEnough
  intro v turn v' n hLive hWaits hTurn
  have hMachine := (turn_spec hLive.targets hTurn).2 u
  rw [hWaits] at hMachine
  cases hAfter : (switchMachine u).read v'.state with
  | none =>
    rw [hAfter] at hMachine
    cases hMachine
  | some machine' =>
    rw [hAfter, Option.rel_some_some] at hMachine
    rcases hMachine.of_moving with hSettled | hGoesOn
    · obtain ⟨sw', hFind, rfl⟩ := Option.map_eq_some_iff.mp hAfter
      exact Or.inl ⟨sw', hFind, hSettled⟩
    · exact Or.inr (hAfter.trans (congrArg some hGoesOn))

/-- In every state that the engine reaches from a freshly loaded world, switches in motion count down and land. -/
theorem movingSwitches_countDown {w₀ w : World φ} {turns : List (Turn φ)} (hLoaded : w₀.Loaded)
    (hTargets : w₀.control.pendingTargets = fun _ => none) (hTrace : Trace (TurnStep dynamics tables) w₀ turns w) :
    CountsDown dynamics tables w ∧ w.control.eea4ThrowTicks = w₀.control.eea4ThrowTicks := by
  have hLive : MachinesLive w₀.control.eea4ThrowTicks w :=
    hTrace.invariant (fun h hTurn => h.turn hTurn) (machinesLive_of_loaded hLoaded hTargets)
  have hRead : ∀ {u sw}, w.state.findSwitch u = some sw → sw.position = .moving →
      (switchMachine u).read w.state = some (.moving, sw.movingTicksRemaining) := by
    intro u sw hFind hMoving
    simp [switchMachine, hFind, hMoving]
  have hCounting : ∀ u sw, w.state.findSwitch u = some sw → sw.position = .moving →
      1 ≤ sw.movingTicksRemaining ∧ sw.movingTicksRemaining ≤ w.control.eea4ThrowTicks := by
    intro u sw hFind hMoving
    rw [hLive.throwTime]
    exact hLive.live u _ (hRead hFind hMoving) rfl
  refine ⟨⟨hCounting, ?_, ?_⟩, hLive.throwTime⟩
  · rintro sw hMem ⟨hMoving, hNone⟩
    have hFind : w.state.findSwitch sw.uid = some sw := KeyedMap.find_eq_some_iff.mpr ⟨hMem, rfl⟩
    have hSome := (hCounting sw.uid sw hFind hMoving).1
    omega
  · intro u sw hFind hMoving turns w' hTrace hEnough
    exact hLive.lands (hRead hFind hMoving) hTrace hEnough

end Runs

/-! A command that throws switch 10 to its divergent leg, and the table behind its bytes. -/

def throwTen : List Byte :=
  [0x01, 12, 0, 0, 0, 8, 0, 13, 0, 4, 0, 12, 0, 8, 0, 0, 0, 10, 0, 0, 0, 0, 0, 0, 0, 1]

/-- The reader of a table of switch and position, laid out one after the other. -/
def flatSwitchTables : CommandTables where
  setSwitchPosition fbData :=
    if fbData.take 16 = [12, 0, 0, 0, 8, 0, 13, 0, 4, 0, 12, 0, 8, 0, 0, 0] ∧ fbData.length = 25 then
      some ⟨⟨leWord 64 ((fbData.drop 16).take 8)⟩, fbData.getD 24 0⟩
    else none

theorem movingSwitches_countDown_fork : ∃ w sw, Trace (TurnStep World.idleTrains flatSwitchTables)
      (World.start .ebilock forkStation) [.payload throwTen] w ∧
    w.state.findSwitch ⟨10⟩ = some sw ∧ sw.position = .moving ∧ sw.movingTicksRemaining = 90 ∧
      CountsDown World.idleTrains flatSwitchTables w := by
  let throwCmd : Command := .setSwitchPosition ⟨⟨10⟩, .divergent⟩
  have hThrow : throwOf throwCmd = some (⟨10⟩, .divergent) := rfl
  have hParse : CommandIngress.parsePayload flatSwitchTables throwTen = some (held throwCmd) := by decide
  obtain ⟨w, hStep⟩ := @exists_step_of_check Unit World.idleTrains (World.start .ebilock forkStation) throwCmd
    (by decide +kernel)
  have hTrace : Trace (TurnStep World.idleTrains flatSwitchTables) (World.start .ebilock forkStation)
      [.payload throwTen] w := .cons (.payload hParse (.declared hStep)) (.nil w)
  have hMachine := (machine_of_throw hThrow (by decide +kernel) (by decide) hStep).1
  obtain ⟨sw, hFind, hMoving⟩ := Option.map_eq_some_iff.mp hMachine
  refine ⟨w, sw, hTrace, hFind, (Prod.mk.inj hMoving).1, (Prod.mk.inj hMoving).2, ?_⟩
  exact (movingSwitches_countDown ⟨[forkStation], _, rfl⟩ rfl hTrace).1

end Symulator.Interlocking
