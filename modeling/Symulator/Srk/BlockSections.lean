import Symulator.Srk.RouteMap

/-! # Block sections along a run

Three families of commands turn a block section, and each command turns at most the one it names. No
other step writes a direction, and no step counts an axle in a block section.
-/

namespace Symulator.Srk

open Symulator.Library Symulator.Engine

set_option autoImplicit false

/-! ## The direction a command gives -/

def confirmedDirection (d : BlockDirectionState) : BlockDirectionState :=
  if d = .inboundPending then .inbound else .outbound

def shl12Turn (d : BlockDirectionState) : Shl12Op → BlockDirectionState
  | .blw => .outboundPending
  | .blp => if d = .outboundPending then .outbound else .inbound
  | .blo | .blz | .bla | .ops => .neutral
  | .blai => .emergency

def operatorTurn (d : BlockDirectionState) : OperatorCommandCode → Option BlockDirectionState
  | .blw | .bpz => some .outboundPending
  | .blp | .poz => some (confirmedDirection d)
  | .blo | .blz | .bla | .ops | .dpw => some .neutral
  | .blai | .dpwi => some .emergency
  | _ => none

def ml8Turn (d : BlockDirectionState) : Ml8CommandCode → Option BlockDirectionState
  | .wbl => some .outboundPending
  | .pzk => some (confirmedDirection d)
  | .azk => some .emergency
  | .blz | .zwbl | .owbl => some .neutral
  | _ => none

/-- The direction a command gives to the block section `u` when it stands in direction `d`. -/
def ControlSystem.turn (sys : ControlSystem) (u : UID) (d : BlockDirectionState) :
    Command → Option BlockDirectionState
  | .setBlockDirection cmd => if u = cmd.blockSectionUid then some (shl12Turn d cmd.operation) else none
  | .initAxleCounterReset cmd => if u = cmd.blockSectionUid then some .resetPending else none
  | .resetAxleCounter cmd => if u = cmd.blockSectionUid then some .neutral else none
  | .operatorCommand cmd => if u = cmd.targetUid then operatorTurn d cmd.code else none
  | .ml8Command cmd =>
    match sys.kind with
    | .ebilock => none
    | .ml8 => if u = cmd.targetUid then ml8Turn d cmd.code else none
  | _ => none

/-- The direction a step gives; only commands give one. -/
def World.turn {φ : Type} (w : World φ) (u : UID) (d : BlockDirectionState) :
    Action φ → Option BlockDirectionState
  | .command cmd => w.control.turn u d cmd
  | _ => none

/-- What is left of a block section that a step gives direction `dir`, if any, at `tick`. -/
def afterTurn (tick : Nat) (held : BlockDirectionState × Option Nat) (dir : Option BlockDirectionState) :
    BlockDirectionState × Option Nat :=
  (dir.map (turned tick)).getD held

@[simp] theorem afterTurn_none (tick : Nat) (held : BlockDirectionState × Option Nat) :
    afterTurn tick held none = held := rfl

@[simp] theorem afterTurn_some (tick : Nat) (held : BlockDirectionState × Option Nat) (dir : BlockDirectionState) :
    afterTurn tick held (some dir) = turned tick dir := rfl

/-! ## What changes do to a block section -/

theorem blockHeld_of_silent {cs : List DeviceStateChange} {u : UID} (h : ∀ c ∈ cs, blockDirectionWrite u c = none)
    (s : EngineState) : blockHeld (applyAll s cs) u = blockHeld s u := by
  have hSilent : (fun held => lastWrite (fun c => (blockDirectionWrite u c).map (turned s.currentTick)) held cs) =
      id := by
    funext held
    refine lastWrite_of_silent (fun c hc => ?_) held
    rw [h c hc]
    rfl
  rw [blockHeld_applyAll, hSilent, Option.map_id_fun, id]

theorem blockHeld_of_turn {after : List DeviceStateChange} {u : UID}
    (hAfter : ∀ c ∈ after, blockDirectionWrite u c = none) (s : EngineState) (uid : UID)
    (dir : BlockDirectionState) (confirm : Bool) :
    blockHeld (applyAll s (.blockDirectionChange uid dir confirm :: after)) u =
      (blockHeld s u).map (fun held => afterTurn s.currentTick held (if u = uid then some dir else none)) := by
  rw [applyAll_cons, blockHeld_of_silent hAfter, blockHeld_apply]
  rfl

theorem blockHeld_apply_of_silent {c : DeviceStateChange} {u : UID} (h : blockDirectionWrite u c = none)
    (s : EngineState) : blockHeld (apply s c) u = blockHeld s u := by
  rw [blockHeld_apply, h]
  exact congrFun Option.map_id_fun' _

theorem blockHeld_of_isRouteSide {cs : List DeviceStateChange} (h : ∀ c ∈ cs, isRouteSide c = true) (s : EngineState)
    (u : UID) : blockHeld (applyAll s cs) u = blockHeld s u :=
  blockHeld_of_silent (fun c hc => blockDirectionWrite_of_isRouteSide u (h c hc)) s

/-! ## What commands and steps do to a block section -/

theorem blockHeld_confirmBlockDirection (s t : EngineState) (uid u : UID)
    (hHeld : ∀ u, blockHeld t u = blockHeld s u) :
    blockHeld (applyAll t (confirmBlockDirection s uid)) u = (blockHeld s u).map (fun held =>
      afterTurn t.currentTick held (if u = uid then some (confirmedDirection held.1) else none)) := by
  unfold confirmBlockDirection
  cases hFind : s.findBlockSection uid with
  | none =>
    by_cases hUid : u = uid
    · subst hUid
      rw [applyAll_nil, hHeld, blockHeld, hFind]
      rfl
    · simp [hHeld, hUid]
  | some bs =>
    rw [blockHeld_of_turn (by simp [blockDirectionWrite]), hHeld]
    by_cases hUid : u = uid
    · subst hUid
      rw [blockHeld_of_find hFind]
      simp [confirmedDirection]
    · simp [hUid]

theorem blockHeld_executeOperatorCommand (s : EngineState) (cmd : OperatorCommandCmd) (throwTimeTicks : Int)
    (u : UID) : blockHeld (applyAll s (executeOperatorCommand s cmd throwTimeTicks)) u =
      (blockHeld s u).map (fun held =>
        afterTurn s.currentTick held (if u = cmd.targetUid then operatorTurn held.1 cmd.code else none)) := by
  obtain ⟨uid, kind, code⟩ := cmd
  have hFirst : ∀ u, blockHeld (apply s (.operatorCommandStateChange uid kind code true)) u = blockHeld s u :=
    fun u => blockHeld_apply_of_silent rfl s
  rw [executeOperatorCommand, applyAll_cons]
  cases code
  case blw | bpz | blo | blz | bla | ops | dpw | blai | dpwi =>
    rw [blockHeld_of_turn (by simp [blockDirectionWrite]), hFirst, currentTick_apply]
    rfl
  case blp | poz =>
    rw [blockHeld_confirmBlockDirection s _ uid u hFirst, currentTick_apply]
    rfl
  case ses =>
    rw [blockHeld_of_isRouteSide (isRouteSide_setSignalToStop s uid), hFirst]
    simp [operatorTurn]
  case zwp | zbp | zwm | zbm =>
    rw [blockHeld_of_isRouteSide (isRouteSide_setPoints s uid _ _ throwTimeTicks), hFirst]
    simp [operatorTurn]
  all_goals
    rw [blockHeld_of_silent (by simp [blockDirectionWrite]), hFirst]
    simp [operatorTurn]

theorem blockHeld_executeMl8Command (s : EngineState) (cmd : Ml8CommandCmd) (throwTimeTicks : Int) (u : UID) :
    blockHeld (applyAll s (executeMl8Command s cmd throwTimeTicks)) u = (blockHeld s u).map (fun held =>
      afterTurn s.currentTick held (if u = cmd.targetUid then ml8Turn held.1 cmd.code else none)) := by
  obtain ⟨uid, kind, code⟩ := cmd
  have hFirst : ∀ u, blockHeld (apply s (.ml8CommandStateChange uid kind code true)) u = blockHeld s u :=
    fun u => blockHeld_apply_of_silent rfl s
  rw [executeMl8Command, applyAll_cons]
  cases code
  case wbl | azk | blz | zwbl | owbl =>
    rw [blockHeld_of_turn (by simp [blockDirectionWrite]), hFirst, currentTick_apply]
    rfl
  case pzk =>
    rw [blockHeld_confirmBlockDirection s _ uid u hFirst, currentTick_apply]
    rfl
  case stoj | stj | stop =>
    rw [blockHeld_of_isRouteSide (isRouteSide_setSignalToStop s uid), hFirst]
    simp [ml8Turn]
  case sz | nsz =>
    dsimp only
    rw [blockHeld_of_silent (by split <;> simp [blockDirectionWrite]), hFirst]
    simp [ml8Turn]
  case pz | dpz =>
    rw [blockHeld_of_isRouteSide (isRouteSide_setPoints s uid _ _ throwTimeTicks), hFirst]
    simp [ml8Turn]
  all_goals
    rw [blockHeld_of_silent (by simp [blockDirectionWrite]), hFirst]
    simp [ml8Turn]

theorem blockHeld_executeSetBlockDirection (s : EngineState) (cmd : SetBlockDirectionCmd) (u : UID) :
    blockHeld (applyAll s (executeSetBlockDirection s cmd)) u = (blockHeld s u).map (fun held =>
      afterTurn s.currentTick held
        (if u = cmd.blockSectionUid then some (shl12Turn held.1 cmd.operation) else none)) := by
  obtain ⟨uid, operation⟩ := cmd
  cases hFind : s.findBlockSection uid with
  | none =>
    simp only [executeSetBlockDirection, hFind, applyAll_nil]
    by_cases hUid : u = uid
    · subst hUid
      rw [blockHeld, hFind]
      rfl
    · simp [hUid]
  | some bs =>
    cases operation
    case blp =>
      simp only [executeSetBlockDirection, hFind]
      by_cases hPending : bs.direction = .outboundPending
      · rw [if_pos hPending, blockHeld_of_turn (by simp [blockDirectionWrite])]
        by_cases hUid : u = uid
        · subst hUid
          rw [blockHeld_of_find hFind]
          simp [shl12Turn, hPending]
        · simp [hUid]
      · rw [if_neg hPending, blockHeld_of_turn (by simp [blockDirectionWrite])]
        by_cases hUid : u = uid
        · subst hUid
          rw [blockHeld_of_find hFind]
          simp [shl12Turn, hPending]
        · simp [hUid]
    all_goals
      simp only [executeSetBlockDirection, hFind]
      rw [blockHeld_of_turn (by simp [blockDirectionWrite])]
      rfl

/-- A command turns the block section it names, and no other. -/
theorem blockHeld_changesOf (sys : ControlSystem) (s : EngineState) (cmd : Command) (u : UID) :
    blockHeld (applyAll s (sys.changesOf s cmd)) u = (blockHeld s u).map (fun held =>
      afterTurn s.currentTick held (sys.turn u held.1 cmd)) := by
  have hSilent : ∀ cs : List DeviceStateChange, (∀ c ∈ cs, blockDirectionWrite u c = none) →
      blockHeld (applyAll s cs) u = (blockHeld s u).map (fun held => afterTurn s.currentTick held none) := by
    intro cs hcs
    rw [blockHeld_of_silent hcs]
    exact (congrFun Option.map_id_fun' _).symm
  have hRouteSide : ∀ cs : List DeviceStateChange, (∀ c ∈ cs, isRouteSide c = true) →
      blockHeld (applyAll s cs) u = (blockHeld s u).map (fun held => afterTurn s.currentTick held none) :=
    fun cs hcs => hSilent cs fun c hc => blockDirectionWrite_of_isRouteSide u (hcs c hc)
  cases cmd
  case requestRoute => exact hRouteSide _ isRouteSide_request
  case cancelRoute => exact hRouteSide _ isRouteSide_cancel
  case setSwitchPosition cmd => exact hRouteSide _ (isRouteSide_effect (.switch cmd.uid cmd.position) _)
  case operatorCommand cmd => exact blockHeld_executeOperatorCommand s cmd _ u
  case ml8Command cmd =>
    obtain ⟨kind, throwTimeTicks, targets⟩ := sys
    cases kind with
    | ebilock => exact hSilent [] (by simp)
    | ml8 => exact blockHeld_executeMl8Command s cmd _ u
  case setBlockDirection cmd => exact blockHeld_executeSetBlockDirection s cmd u
  case initAxleCounterReset | resetAxleCounter => exact blockHeld_of_turn (by simp [blockDirectionWrite]) s _ _ _
  all_goals exact hSilent _ (by simp [ControlSystem.changesOf, executeSetSignalAspect, executeSetDerailerPosition,
    executeSetBlockSection, executeAcknowledgeAlarm, blockDirectionWrite])

theorem blockSections_of_onlyOccupancy {s t : EngineState} (h : OnlyOccupancy s t) :
    t.blockSections = s.blockSections := by
  rw [h.1]

theorem blockHeld_step {φ : Type} {dynamics : TrainDynamics φ} {w w' : World φ} {a : Action φ}
    (h : w.step dynamics a = some w') (u : UID) :
    blockHeld w'.state u = (blockHeld w.state u).map (fun held =>
      afterTurn w.state.currentTick held (w.turn u held.1 a)) := by
  have hKept : blockHeld w'.state u = blockHeld w.state u → (∀ d, w.turn u d a = none) →
      blockHeld w'.state u = (blockHeld w.state u).map (fun held =>
        afterTurn w.state.currentTick held (w.turn u held.1 a)) := by
    intro hSame hNone
    simp only [hNone, afterTurn_none, Option.map_id_fun', id, hSame]
  rcases World.step_cases h with ⟨cmd, rfl, -, hState⟩ | ⟨rfl, hState⟩ | ⟨hCommand, -, t, hOcc, hState⟩
  · rw [hState]
    exact blockHeld_changesOf w.control w.state cmd u
  · refine hKept ?_ (fun _ => rfl)
    rw [hState]
    exact blockHeld_of_isRouteSide isRouteSide_onTick w.state u
  · refine hKept ?_ (fun d => ?_)
    · rcases hState with hState | hState <;>
        simp only [blockHeld, EngineState.findBlockSection, hState, EngineState.setCurrentTick,
          blockSections_of_onlyOccupancy hOcc]
    · cases a <;> first | rfl | exact absurd rfl (hCommand _)

/-! ## Axles in block sections -/

/-- No axle is counted in any block section. -/
def BlocksClear (s : EngineState) : Prop := ∀ u bs, s.findBlockSection u = some bs → bs.axleCount = 0

theorem blocksClear_applyAll {s : EngineState} (h : BlocksClear s) (cs : List DeviceStateChange) :
    BlocksClear (applyAll s cs) := by
  have hZero : ∀ u, ∀ c ∈ cs, ∀ n, blockAxleCountWrite u c = some n → n = 0 := by
    intro u c _ n hWrite
    unfold blockAxleCountWrite at hWrite
    split at hWrite
    · split at hWrite <;> cases hWrite
      rfl
    · cases hWrite
  intro u bs hFind
  have hRead : (blockAxleCount u).read (applyAll s cs) = some bs.axleCount := by
    simp [blockAxleCount, hFind]
  rw [applyAll, Register.read_foldl, Option.map_eq_some_iff] at hRead
  obtain ⟨n, hBefore, hLog⟩ := hRead
  obtain ⟨old, hOld, rfl⟩ := Option.map_eq_some_iff.mp hBefore
  have hEnd : lastWrite (blockAxleCountWrite u) old.axleCount cs = _ := lastWrite_of_constant (hZero u) _
  rw [← hLog]
  refine hEnd.trans ?_
  rw [h u old hOld]
  split <;> rfl

theorem blocksClear_step {φ : Type} {dynamics : TrainDynamics φ} {w w' : World φ} {a : Action φ}
    (h : BlocksClear w.state) (hStep : w.step dynamics a = some w') : BlocksClear w'.state := by
  rcases World.step_cases hStep with ⟨cmd, -, -, hState⟩ | ⟨-, hState⟩ | ⟨-, -, t, hOcc, hState⟩
  · rw [hState]
    exact blocksClear_applyAll h _
  · rw [hState]
    exact blocksClear_applyAll h _
  · intro u bs hFind
    refine h u bs ?_
    rw [← hFind]
    rcases hState with hState | hState <;>
      simp only [EngineState.findBlockSection, hState, EngineState.setCurrentTick,
        blockSections_of_onlyOccupancy hOcc]

theorem blocksClear_of_loaded {φ : Type} {w : World φ} (h : w.Loaded) : BlocksClear w.state := by
  obtain ⟨dirs, results, hLoad⟩ := h
  intro u bs hFind
  exact (blocksFresh_of_loadWorld hLoad).axles bs (KeyedMap.find_eq_some_iff.mp hFind).1

theorem blocksClear_of_reachable {φ : Type} {dynamics : TrainDynamics φ} {w : World φ}
    (h : w.Reachable dynamics) : BlocksClear w.state := by
  obtain ⟨w₀, actions, hLoaded, hRun⟩ := h
  exact invariant (fun w => BlocksClear w.state) (fun _ _ _ hw hStep => blocksClear_step hw hStep)
    (blocksClear_of_loaded hLoaded) hRun

end Symulator.Srk
