import Symulator.Engine.EngineSnapshot
import Symulator.Srk.ChangeReport
import Symulator.Srk.RouteMap

/-! # Level crossings over runs

The shared rules can close the crossings whose warning time has elapsed, but neither control system calls them, and no
command touches a crossing. A run of the loop leaves every crossing as it is while its tick counter moves on.
-/

namespace Symulator.Srk

open Symulator.Library Symulator.Engine

set_option autoImplicit false

/-- The crossing is in its warning and the warning time has elapsed. -/
def Overdue (tick : Nat) (lx : LevelCrossing) : Prop :=
  lx.status = .warning ∧ ∃ start ∈ lx.warningStartTick, start + lx.warningDurationTicks ≤ tick

instance (tick : Nat) (lx : LevelCrossing) : Decidable (Overdue tick lx) := by
  unfold Overdue
  exact inferInstance

theorem Overdue.mono {tick later : Nat} {lx : LevelCrossing} (h : Overdue tick lx) (hLe : tick ≤ later) :
    Overdue later lx := by
  obtain ⟨hStatus, start, hStart, hElapsed⟩ := h
  exact ⟨hStatus, start, hStart, hElapsed.trans hLe⟩

def tickLevelCrossings (state : EngineState) (currentTick : Nat) : List DeviceStateChange :=
  (state.levelCrossings.values.filter (Overdue currentTick ·)).map fun lx => .levelCrossingStateChange lx.uid .closed

/-! ## What the rule does -/

theorem mem_levelCrossings_applyAll {uids : List UID} {s : EngineState} {lx : LevelCrossing}
    (h : lx ∈ (applyAll s (uids.map fun uid => .levelCrossingStateChange uid .closed)).levelCrossings.values) :
    lx.status = .closed ∨ lx ∈ s.levelCrossings.values ∧ lx.uid ∉ uids := by
  induction uids generalizing s with
  | nil => exact Or.inr ⟨h, List.not_mem_nil⟩
  | cons uid uids ih =>
    rcases ih h with hClosed | ⟨hMem, hOther⟩
    · exact Or.inl hClosed
    · obtain ⟨before, hBefore, rfl⟩ := List.mem_map.mp hMem
      by_cases hUid : before.uid = uid
      · exact Or.inl (by simp [hUid, Keyed.key])
      · right
        simp only [Keyed.key, if_neg hUid] at hOther ⊢
        exact ⟨hBefore, List.not_mem_cons_of_ne_of_not_mem hUid hOther⟩

/-- Where its changes are applied no warning is overdue. -/
theorem not_overdue_tickLevelCrossings (s : EngineState) (tick : Nat) :
    ∀ lx ∈ (applyAll s (tickLevelCrossings s tick)).levelCrossings.values, ¬ Overdue tick lx := by
  intro lx hMem hOverdue
  have hChanges : tickLevelCrossings s tick =
      ((s.levelCrossings.values.filter (Overdue tick ·)).map LevelCrossing.uid).map
        fun uid => .levelCrossingStateChange uid .closed := by
    rw [List.map_map]
    rfl
  rw [hChanges] at hMem
  rcases mem_levelCrossings_applyAll hMem with hClosed | ⟨hMem, hOther⟩
  · rw [hOverdue.1] at hClosed
    cases hClosed
  · exact hOther (List.mem_map_of_mem (List.mem_filter.mpr ⟨hMem, decide_eq_true hOverdue⟩))

/-! ## What the loop does -/

def writesCrossings : DeviceStateChange → Bool
  | .levelCrossingStateChange .. => true
  | _ => false

theorem levelCrossings_modifyOperatorState (s : EngineState) (uid : UID) (kind : OperatorTargetKind)
    (f : OperatorCommandRuntimeState → OperatorCommandRuntimeState) :
    (s.modifyOperatorState uid kind f).levelCrossings = s.levelCrossings := by
  cases kind
  case switch =>
    simp only [EngineState.modifyOperatorState]
    split <;> rfl
  all_goals rfl

theorem levelCrossings_apply (s : EngineState) {c : DeviceStateChange} (h : writesCrossings c = false) :
    (apply s c).levelCrossings = s.levelCrossings := by
  cases c
  case operatorCommandStateChange | ml8CommandStateChange => exact levelCrossings_modifyOperatorState _ _ _ _
  case signalAspectChange | derailerStateChange =>
    simp only [apply]
    split <;> (try split) <;> rfl
  case axleCounterResetChange uid kind => cases kind <;> rfl
  case levelCrossingStateChange => cases h
  all_goals rfl

theorem levelCrossings_applyAll {cs : List DeviceStateChange} (h : ∀ c ∈ cs, writesCrossings c = false)
    (s : EngineState) : (applyAll s cs).levelCrossings = s.levelCrossings := by
  induction cs generalizing s with
  | nil => rfl
  | cons c cs ih =>
    rw [applyAll_cons, ih (fun c' hc' => h c' (List.mem_cons_of_mem _ hc')),
      levelCrossings_apply s (h c List.mem_cons_self)]

theorem writesCrossings_confirmBlockDirection (state : EngineState) (uid : UID) :
    ∀ c ∈ confirmBlockDirection state uid, writesCrossings c = false := by
  unfold confirmBlockDirection
  split
  · simp
  · simp [writesCrossings]

theorem writesCrossings_setSignalToStop (state : EngineState) (uid : UID) :
    ∀ c ∈ setSignalToStop state uid, writesCrossings c = false := by
  unfold setSignalToStop
  split
  · simp
  · simp [writesCrossings]

theorem writesCrossings_executeSetSwitchPosition (cmd : SetSwitchPositionCmd) (throwTimeTicks : Int) :
    ∀ c ∈ executeSetSwitchPosition cmd throwTimeTicks, writesCrossings c = false := by
  unfold executeSetSwitchPosition
  split <;> simp [writesCrossings]

theorem writesCrossings_setPoints (state : EngineState) (uid : UID) (position : SwitchPosition)
    (derailer : DerailerState) (throwTimeTicks : Int) :
    ∀ c ∈ setPoints state uid position derailer throwTimeTicks, writesCrossings c = false := by
  unfold setPoints
  split
  · exact writesCrossings_executeSetSwitchPosition _ _
  · split
    · simp [executeSetDerailerPosition, writesCrossings]
    · simp

theorem writesCrossings_executeSetBlockDirection (state : EngineState) (cmd : SetBlockDirectionCmd) :
    ∀ c ∈ executeSetBlockDirection state cmd, writesCrossings c = false := by
  obtain ⟨uid, operation⟩ := cmd
  cases hFind : state.findBlockSection uid with
  | none => simp [executeSetBlockDirection, hFind]
  | some bs =>
    cases operation
    case blp =>
      simp only [executeSetBlockDirection, hFind]
      split <;> simp [writesCrossings]
    all_goals simp [executeSetBlockDirection, hFind, writesCrossings]

theorem writesCrossings_executeOperatorCommand (state : EngineState) (cmd : OperatorCommandCmd) (throwTimeTicks : Int) :
    ∀ c ∈ executeOperatorCommand state cmd throwTimeTicks, writesCrossings c = false := by
  obtain ⟨uid, kind, code⟩ := cmd
  refine List.forall_mem_cons.mpr ⟨rfl, ?_⟩
  cases code
  case ses => exact writesCrossings_setSignalToStop _ _
  case zwp | zbp | zwm | zbm => exact writesCrossings_setPoints _ _ _ _ _
  case blp | poz => exact writesCrossings_confirmBlockDirection _ _
  all_goals simp [writesCrossings]

theorem writesCrossings_executeMl8Command (state : EngineState) (cmd : Ml8CommandCmd) (throwTimeTicks : Int) :
    ∀ c ∈ executeMl8Command state cmd throwTimeTicks, writesCrossings c = false := by
  obtain ⟨uid, kind, code⟩ := cmd
  refine List.forall_mem_cons.mpr ⟨rfl, ?_⟩
  cases code
  case stoj | stj | stop => exact writesCrossings_setSignalToStop _ _
  case sz | nsz =>
    dsimp only
    split <;> simp [writesCrossings]
  case pz | dpz => exact writesCrossings_setPoints _ _ _ _ _
  case pzk => exact writesCrossings_confirmBlockDirection _ _
  all_goals simp [writesCrossings]

theorem writesCrossings_executeRequestRoute (s : EngineState) (cmd : RequestRouteCmd) (tick : Nat) :
    ∀ c ∈ executeRequestRoute s cmd tick kPolicies, writesCrossings c = false :=
  forall_mem_request (fun _ => rfl) (fun _ _ => rfl) (fun _ => rfl) rfl (fun _ => rfl)

theorem writesCrossings_executeCancelRoute (s : EngineState) (cmd : CancelRouteCmd) :
    ∀ c ∈ executeCancelRoute s cmd, writesCrossings c = false :=
  forall_mem_cancel rfl (fun _ => rfl) (fun _ => rfl) (fun _ => rfl) (fun _ => rfl)

/-- No command of either control system touches a crossing. -/
theorem writesCrossings_changesOf (sys : ControlSystem) (s : EngineState) (cmd : Command) :
    ∀ c ∈ sys.changesOf s cmd, writesCrossings c = false := by
  cases cmd
  case setSwitchPosition cmd => exact writesCrossings_executeSetSwitchPosition _ _
  case requestRoute cmd => exact writesCrossings_executeRequestRoute s cmd _
  case cancelRoute cmd => exact writesCrossings_executeCancelRoute s cmd
  case setBlockDirection cmd => exact writesCrossings_executeSetBlockDirection s cmd
  case operatorCommand cmd => exact writesCrossings_executeOperatorCommand s cmd _
  case ml8Command cmd =>
    obtain ⟨kind, throwTimeTicks, targets⟩ := sys
    cases kind with
    | ebilock => exact List.forall_mem_nil _
    | ml8 => exact writesCrossings_executeMl8Command s cmd _
  all_goals simp [writesCrossings, ControlSystem.changesOf, executeSetSignalAspect, executeSetDerailerPosition,
    executeSetBlockSection, executeAcknowledgeAlarm, executeInitAxleCounterReset, executeResetAxleCounter]

/-- Nor does the tick of either. -/
theorem writesCrossings_onTick (sys : ControlSystem) (s : EngineState) (tick : Nat) :
    ∀ c ∈ (sys.onTick s tick).1, writesCrossings c = false := by
  intro c hc
  obtain ⟨uid, position, ticks, rfl⟩ | ⟨route, _, ⟨_, rfl | ⟨uid, _, rfl⟩ | rfl⟩ | ⟨releaseTick, rfl⟩⟩ :=
    onTick_cases hc
  all_goals rfl

namespace World

variable {φ : Type} (dynamics : TrainDynamics φ)

/-- In every state that the ticks publish no warning is overdue, and a crossing that closes in a tick was due by it. -/
def ClosesInTime : World φ → List (List Command × List (FleetCommand φ)) → Prop
  | _, [] => True
  | w, (queue, fleetCommands) :: ticks =>
    let w' := w.doTick dynamics queue fleetCommands
    let snap := publish dynamics w'.state w'.fleet
    (∀ lx ∈ snap.levelCrossings.values, ¬ Overdue snap.tick lx) ∧
      (∀ lx ∈ w.state.levelCrossings.values, ∀ lx' ∈ snap.levelCrossings.find lx.uid,
        lx.status = .warning → lx'.status = .closed → Overdue snap.tick lx) ∧
      ClosesInTime w' ticks

variable {dynamics}

theorem levelCrossings_step {w w' : World φ} {a : Action φ} (h : w.step dynamics a = some w') :
    w'.state.levelCrossings = w.state.levelCrossings := by
  rcases step_cases h with ⟨cmd, _, _, hState⟩ | ⟨_, hState⟩ | ⟨_, _, t, hOcc, hState | hState⟩
  · rw [hState, levelCrossings_applyAll (writesCrossings_changesOf _ _ _)]
  · rw [hState, levelCrossings_applyAll (writesCrossings_onTick _ _ _)]
  · rw [hState, hOcc.1]
  · rw [hState, hOcc.1]
    rfl

theorem levelCrossings_doTick (w : World φ) (queue : List Command) (fleetCommands : List (FleetCommand φ)) :
    (w.doTick dynamics queue fleetCommands).state.levelCrossings = w.state.levelCrossings := by
  obtain ⟨actions, hRun⟩ := @exists_run_doTick φ dynamics w queue fleetCommands
  refine invariant (fun v : World φ => v.state.levelCrossings = w.state.levelCrossings) ?_ rfl hRun
  intro v a v' hv hStep
  rw [levelCrossings_step hStep, hv]

theorem currentTick_doTick (w : World φ) (queue : List Command) (fleetCommands : List (FleetCommand φ)) :
    (w.doTick dynamics queue fleetCommands).state.currentTick = w.state.currentTick + 1 := by
  rw [← doTickListed_fst, (doTickListed_eq w queue fleetCommands rfl).2, EngineState.setCurrentTick,
    ← beforeTrains_replays w queue fleetCommands, currentTick_applyAll]

/-- A run keeps to the crossings' times if and only if none of them is overdue by its last tick. -/
theorem closesInTime_iff (w : World φ) (ticks : List (List Command × List (FleetCommand φ))) :
    ClosesInTime dynamics w ticks ↔
      ticks = [] ∨ ∀ lx ∈ w.state.levelCrossings.values, ¬ Overdue (w.state.currentTick + ticks.length) lx := by
  induction ticks generalizing w with
  | nil => exact iff_of_true trivial (Or.inl rfl)
  | cons input ticks ih =>
    obtain ⟨queue, fleetCommands⟩ := input
    have hCrossings := @levelCrossings_doTick φ dynamics w queue fleetCommands
    have hTick := @currentTick_doTick φ dynamics w queue fleetCommands
    -- a crossing stays what it was, so none closes
    have hStays : ∀ lx ∈ w.state.levelCrossings.values, ∀ lx' ∈ w.state.levelCrossings.find lx.uid,
        lx.status = .warning → lx'.status = .closed → Overdue (w.state.currentTick + 1) lx := by
      intro lx hMem lx' hFind hWarning hClosed
      have hSame : w.state.levelCrossings.find lx.uid = some lx := KeyedMap.find_key hMem
      rw [hSame] at hFind
      cases hFind
      rw [hWarning] at hClosed
      cases hClosed
    have hLength : w.state.currentTick + 1 + ticks.length = w.state.currentTick + (ticks.length + 1) := by omega
    simp only [ClosesInTime, publish, ih, hCrossings, hTick, hLength, List.length_cons, List.cons_ne_nil, false_or]
    constructor
    · rintro ⟨hNow, -, rfl | hLast⟩
      · exact hNow
      · exact hLast
    · intro hLast
      refine ⟨?_, hStays, Or.inr hLast⟩
      intro lx hMem hOverdue
      exact hLast lx hMem (hOverdue.mono (by omega))

/-- A crossing whose warning of 160 ticks began at tick 0, just before tick 160. -/
def warned (kind : ControlSystemKind) : World Unit where
  state :=
    ((EngineState.insertLevelCrossing {} { uid := ⟨1⟩ }).applyLevelCrossingStatus ⟨1⟩ .warning).setCurrentTick 159
  control := { kind }

theorem warned_overdue (kind : ControlSystemKind) : ¬ ClosesInTime idleTrains (warned kind) [([], [])] := by
  rintro ⟨h, -⟩
  have hCrossings := @levelCrossings_doTick Unit idleTrains (warned kind) [] []
  have hTick := @currentTick_doTick Unit idleTrains (warned kind) [] []
  simp only [publish, hCrossings, hTick] at h
  refine h { uid := ⟨1⟩, status := .warning, warningStartTick := some 0 } List.mem_cons_self ⟨rfl, 0, rfl, ?_⟩
  exact Nat.le_refl 160

/-- Under either control system the crossing is still in its warning after tick 160. -/
theorem warned_not_closed :
    ¬ ClosesInTime idleTrains (warned .ebilock) [([], [])] ∧ ¬ ClosesInTime idleTrains (warned .ml8) [([], [])] :=
  ⟨warned_overdue .ebilock, warned_overdue .ml8⟩

end World

end Symulator.Srk
