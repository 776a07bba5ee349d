import Symulator.Engine.DeviceRegisters
import Symulator.Srk.EngineLoop

/-! # What commands and ticks write

Outside of routes a command has at most one effect the interlocking depends on: it sets a signal, throws
a switch or moves a derailer. Everything else it reports is quiet. A tick lands switches in motion and
releases routes that are due.
-/

namespace Symulator.Srk

open Symulator.Library Symulator.Engine

set_option autoImplicit false

/-- Changes that touch no aspect, position, lock or route. -/
def isQuiet : DeviceStateChange → Bool
  | .signalAspectChange .. | .switchPositionChange .. | .switchLocked .. | .switchUnlocked ..
  | .derailerStateChange .. | .routeAdded .. | .routeRemoved .. | .routeOverlapTimerStarted .. => false
  | _ => true

inductive CommandEffect
  | quiet
  | signal (uid : UID) (aspect : SignalAspect)
  | switch (uid : UID) (position : SwitchPosition)
  | derailer (uid : UID) (state : DerailerState)

def CommandEffect.changes (throwTimeTicks : Int) : CommandEffect → List DeviceStateChange
  | .quiet => []
  | .signal uid aspect => executeSetSignalAspect ⟨uid, aspect⟩
  | .switch uid position => executeSetSwitchPosition ⟨uid, position⟩ throwTimeTicks
  | .derailer uid state => executeSetDerailerPosition ⟨uid, state⟩

def stopEffect (state : EngineState) (uid : UID) : CommandEffect :=
  match state.findSignal uid with
  | none => .quiet
  | some sig => .signal uid (stopAspect sig)

def pointsEffect (state : EngineState) (uid : UID) (position : SwitchPosition) (derailer : DerailerState) :
    CommandEffect :=
  if (state.findSwitch uid).isSome then .switch uid position
  else if (state.findDerailer uid).isSome then .derailer uid derailer
  else .quiet

def operatorEffect (state : EngineState) (uid : UID) : OperatorCommandCode → CommandEffect
  | .ses => stopEffect state uid
  | .szw | .szn => .signal uid .s2Proceed
  | .zwp | .zbp => pointsEffect state uid .straight .locked
  | .zwm | .zbm => pointsEffect state uid .divergent .unlocked
  | _ => .quiet

def ml8Effect (state : EngineState) (uid : UID) : Ml8CommandCode → CommandEffect
  | .stoj | .stj | .stop => stopEffect state uid
  | .sz | .nsz => if (state.findSignal uid).isSome then .signal uid .s2Proceed else .quiet
  | .pz | .dpz => pointsEffect state uid .divergent .unlocked
  | _ => .quiet

def isRouteCommand : Command → Bool
  | .requestRoute _ | .cancelRoute _ => true
  | _ => false

/-- The one effect of a command that is not about routes. -/
def ControlSystem.effectOf (sys : ControlSystem) (state : EngineState) : Command → CommandEffect
  | .setSwitchPosition cmd => .switch cmd.uid cmd.position
  | .setSignalAspect cmd => .signal cmd.uid cmd.aspect
  | .setDerailerPosition cmd => .derailer cmd.uid cmd.position
  | .operatorCommand cmd => operatorEffect state cmd.targetUid cmd.code
  | .ml8Command cmd =>
    match sys.kind with
    | .ebilock => .quiet
    | .ml8 => ml8Effect state cmd.targetUid cmd.code
  | _ => .quiet

/-- A change list that is a given one up to quiet changes around it. -/
def QuietAround (changes core : List DeviceStateChange) : Prop :=
  ∃ before after, changes = before ++ core ++ after ∧ ∀ c ∈ before ++ after, isQuiet c = true

theorem quietAround_nil {changes : List DeviceStateChange} (h : ∀ c ∈ changes, isQuiet c = true) :
    QuietAround changes [] :=
  ⟨changes, [], by simp, by simpa using h⟩

theorem quietAround_self (core : List DeviceStateChange) : QuietAround core core :=
  ⟨[], [], by simp, by simp⟩

theorem quietAround_cons {c : DeviceStateChange} (hc : isQuiet c = true) {changes core : List DeviceStateChange}
    (h : QuietAround changes core) : QuietAround (c :: changes) core := by
  obtain ⟨before, after, rfl, hQuiet⟩ := h
  refine ⟨c :: before, after, rfl, ?_⟩
  intro c' hc'
  rcases List.mem_cons.mp hc' with rfl | hc'
  · exact hc
  · exact hQuiet c' hc'

theorem changes_stopEffect (state : EngineState) (uid : UID) (throwTimeTicks : Int) :
    (stopEffect state uid).changes throwTimeTicks = setSignalToStop state uid := by
  unfold stopEffect setSignalToStop
  cases state.findSignal uid <;> rfl

theorem changes_pointsEffect (state : EngineState) (uid : UID) (position : SwitchPosition)
    (derailer : DerailerState) (throwTimeTicks : Int) :
    (pointsEffect state uid position derailer).changes throwTimeTicks =
      setPoints state uid position derailer throwTimeTicks := by
  unfold pointsEffect setPoints
  split
  · rfl
  · split <;> rfl

theorem quiet_confirmBlockDirection (state : EngineState) (uid : UID) :
    ∀ c ∈ confirmBlockDirection state uid, isQuiet c = true := by
  unfold confirmBlockDirection
  split
  · simp
  · simp [isQuiet]

theorem quiet_executeSetBlockDirection (state : EngineState) (cmd : SetBlockDirectionCmd) :
    ∀ c ∈ executeSetBlockDirection state cmd, isQuiet c = true := by
  obtain ⟨uid, operation⟩ := cmd
  cases hFind : state.findBlockSection uid with
  | none => simp [executeSetBlockDirection, hFind]
  | some bs =>
    cases operation
    case blp =>
      simp only [executeSetBlockDirection, hFind]
      split <;> simp [isQuiet]
    all_goals simp [executeSetBlockDirection, hFind, isQuiet]

theorem executeOperatorCommand_effect (state : EngineState) (cmd : OperatorCommandCmd) (throwTimeTicks : Int) :
    QuietAround (executeOperatorCommand state cmd throwTimeTicks)
      ((operatorEffect state cmd.targetUid cmd.code).changes throwTimeTicks) := by
  obtain ⟨uid, kind, code⟩ := cmd
  refine quietAround_cons rfl ?_
  cases code
  case ses =>
    simp only [operatorEffect, changes_stopEffect]
    exact quietAround_self _
  case szw | szn => exact quietAround_self _
  case zwp | zbp | zwm | zbm =>
    simp only [operatorEffect, changes_pointsEffect]
    exact quietAround_self _
  case blp | poz => exact quietAround_nil (quiet_confirmBlockDirection state uid)
  all_goals exact quietAround_nil (by simp [isQuiet])

theorem executeMl8Command_effect (state : EngineState) (cmd : Ml8CommandCmd) (throwTimeTicks : Int) :
    QuietAround (executeMl8Command state cmd throwTimeTicks)
      ((ml8Effect state cmd.targetUid cmd.code).changes throwTimeTicks) := by
  obtain ⟨uid, kind, code⟩ := cmd
  refine quietAround_cons rfl ?_
  cases code
  case stoj | stj | stop =>
    simp only [ml8Effect, changes_stopEffect]
    exact quietAround_self _
  case sz | nsz =>
    simp only [ml8Effect]
    split <;> exact quietAround_self _
  case pz | dpz =>
    simp only [ml8Effect, changes_pointsEffect]
    exact quietAround_self _
  case pzk => exact quietAround_nil (quiet_confirmBlockDirection state uid)
  all_goals exact quietAround_nil (by simp [isQuiet])

/-- The changes of a command that is not about routes are those of its effect and quiet ones. -/
theorem changesOf_effect (sys : ControlSystem) (state : EngineState) {cmd : Command}
    (h : isRouteCommand cmd = false) :
    QuietAround (sys.changesOf state cmd) ((sys.effectOf state cmd).changes sys.eea4ThrowTicks) := by
  cases cmd
  case requestRoute | cancelRoute => cases h
  case setSwitchPosition | setSignalAspect | setDerailerPosition => exact quietAround_self _
  case operatorCommand cmd => exact executeOperatorCommand_effect state cmd _
  case ml8Command cmd =>
    obtain ⟨kind, throwTimeTicks, targets⟩ := sys
    cases kind with
    | ebilock => exact quietAround_self _
    | ml8 => exact executeMl8Command_effect state cmd _
  case setBlockDirection cmd => exact quietAround_nil (quiet_executeSetBlockDirection state cmd)
  all_goals exact quietAround_nil (by simp [isQuiet, ControlSystem.changesOf, executeSetBlockSection,
    executeAcknowledgeAlarm, executeInitAxleCounterReset, executeResetAxleCounter])

/-! ## Reading after a command -/

theorem QuietAround.read {β : Type} (r : Register EngineState DeviceStateChange apply β)
    (hr : ∀ c, isQuiet c = true → r.write c = none) {changes core : List DeviceStateChange}
    (h : QuietAround changes core) (s : EngineState) :
    r.read (applyAll s changes) = r.read (applyAll s core) := by
  obtain ⟨before, after, rfl, hQuiet⟩ := h
  have hBefore : ∀ c ∈ before, r.write c = none :=
    fun c hc => hr c (hQuiet c (List.mem_append_left _ hc))
  have hAfter : ∀ c ∈ after, r.write c = none :=
    fun c hc => hr c (hQuiet c (List.mem_append_right _ hc))
  rw [applyAll, applyAll, r.read_foldl, r.read_foldl]
  congr 1
  funext b
  rw [lastWrite_append, lastWrite_append, lastWrite_of_silent hAfter, lastWrite_of_silent hBefore]

theorem switchLockWrite_of_isQuiet (u : UID) {c : DeviceStateChange} (h : isQuiet c = true) :
    switchLockWrite u c = none := by
  cases c <;> first | rfl | cases h

theorem switchPositionWrite_of_isQuiet (u : UID) {c : DeviceStateChange} (h : isQuiet c = true) :
    switchPositionWrite u c = none := by
  cases c <;> first | rfl | cases h

theorem switchMachineWrite_of_isQuiet (u : UID) {c : DeviceStateChange} (h : isQuiet c = true) :
    switchMachineWrite u c = none := by
  cases c <;> first | rfl | cases h

theorem signalLockWrite_of_isQuiet (u : UID) {c : DeviceStateChange} (h : isQuiet c = true) :
    signalLockWrite u c = none := by
  cases c <;> first | rfl | cases h

theorem derailerStateWrite_of_isQuiet (u : UID) {c : DeviceStateChange} (h : isQuiet c = true) :
    derailerStateWrite u c = none := by
  cases c <;> first | rfl | cases h

theorem derailerLockWrite_of_isQuiet (u : UID) {c : DeviceStateChange} (h : isQuiet c = true) :
    derailerLockWrite u c = none := by
  cases c <;> first | rfl | cases h

theorem writesRoutes_of_isQuiet {c : DeviceStateChange} (h : isQuiet c = true) : writesRoutes c = false := by
  cases c <;> first | rfl | cases h

theorem writesRoutes_effect (e : CommandEffect) (throwTimeTicks : Int) :
    ∀ c ∈ e.changes throwTimeTicks, writesRoutes c = false := by
  cases e
  case switch uid position =>
    simp only [CommandEffect.changes, executeSetSwitchPosition]
    split <;> simp [writesRoutes]
  all_goals
    simp [CommandEffect.changes, executeSetSignalAspect, executeSetDerailerPosition, writesRoutes]

/-- A change of a command that is not about routes is quiet or comes from its effect. -/
theorem mem_changesOf {sys : ControlSystem} {s : EngineState} {cmd : Command} (h : isRouteCommand cmd = false)
    {c : DeviceStateChange} (hc : c ∈ sys.changesOf s cmd) :
    isQuiet c = true ∨ c ∈ (sys.effectOf s cmd).changes sys.eea4ThrowTicks := by
  obtain ⟨before, after, hChanges, hQuiet⟩ := changesOf_effect sys s h
  rw [hChanges, List.mem_append, List.mem_append] at hc
  rcases hc with (hc | hc) | hc
  · exact Or.inl (hQuiet c (List.mem_append_left _ hc))
  · exact Or.inr hc
  · exact Or.inl (hQuiet c (List.mem_append_right _ hc))

theorem mem_changesOf_of_effect {sys : ControlSystem} {s : EngineState} {cmd : Command}
    (h : isRouteCommand cmd = false) {c : DeviceStateChange}
    (hc : c ∈ (sys.effectOf s cmd).changes sys.eea4ThrowTicks) : c ∈ sys.changesOf s cmd := by
  obtain ⟨before, after, hChanges, -⟩ := changesOf_effect sys s h
  rw [hChanges]
  exact List.mem_append_left _ (List.mem_append_right _ hc)

theorem writesRoutes_changesOf {sys : ControlSystem} {s : EngineState} {cmd : Command}
    (h : isRouteCommand cmd = false) : ∀ c ∈ sys.changesOf s cmd, writesRoutes c = false := by
  intro c hc
  rcases mem_changesOf h hc with hQuiet | hEffect
  · exact writesRoutes_of_isQuiet hQuiet
  · exact writesRoutes_effect _ _ c hEffect

theorem routes_changesOf (sys : ControlSystem) (s : EngineState) {cmd : Command}
    (h : isRouteCommand cmd = false) : (applyAll s (sys.changesOf s cmd)).routes = s.routes :=
  routes_applyAll_of_silent (writesRoutes_changesOf h) s

/-! ## Ticks -/

theorem mem_tickSwitchMachine {targets : PendingTargets} {sw : Switch} {c : DeviceStateChange}
    (h : c ∈ (tickSwitchMachine targets sw).1) :
    sw.position = .moving ∧ ∃ position ticks, c = .switchPositionChange sw.uid position .auto ticks := by
  unfold tickSwitchMachine at h
  split at h
  · cases h
  · rename_i hMoving
    have hPosition : sw.position = .moving := Decidable.not_not.mp hMoving
    split at h
    · exact ⟨hPosition, _, _, List.mem_singleton.mp h⟩
    · exact ⟨hPosition, _, _, List.mem_singleton.mp h⟩

theorem mem_tickSwitchMachines {s : EngineState} {targets : PendingTargets} {c : DeviceStateChange}
    (h : c ∈ (tickSwitchMachines s targets).1) :
    ∃ sw ∈ s.switches.values, sw.position = .moving ∧
      ∃ position ticks, c = .switchPositionChange sw.uid position .auto ticks := by
  have hFold : ∀ (sws : List Switch) (acc : List DeviceStateChange × PendingTargets),
      c ∈ (sws.foldl (fun acc sw => (acc.1 ++ (tickSwitchMachine acc.2 sw).1, (tickSwitchMachine acc.2 sw).2))
        acc).1 → c ∈ acc.1 ∨ ∃ sw ∈ sws, sw.position = .moving ∧
          ∃ position ticks, c = .switchPositionChange sw.uid position .auto ticks := by
    intro sws
    induction sws with
    | nil => exact fun acc hc => Or.inl hc
    | cons sw sws ih =>
      intro acc hc
      rcases ih _ hc with hc | ⟨sw', hsw', hRest⟩
      · rcases List.mem_append.mp hc with hc | hc
        · exact Or.inl hc
        · exact Or.inr ⟨sw, List.mem_cons_self, mem_tickSwitchMachine hc⟩
      · exact Or.inr ⟨sw', List.mem_cons_of_mem _ hsw', hRest⟩
  rcases hFold s.switches.values ([], targets) h with hc | hc
  · cases hc
  · exact hc

/-- A route that a tick releases: its train has been through, its sections are free again and its
overlap has run out. -/
def IsDue (s : EngineState) (tick : Nat) (route : RouteState) : Prop :=
  route.trainEntered = true ∧ sectionsFree s route.sectionUids = true ∧
    ∃ releaseTick, route.overlapReleaseTick = some releaseTick ∧ releaseTick ≤ tick

theorem releaseRoute_of_isDue {s : EngineState} {tick : Nat} {route : RouteState} (h : IsDue s tick route) :
    releaseRoute s tick route =
      [.signalAspectChange route.fromSignalUid .s1Stop .auto (some route.uid)] ++
        route.switchUids.map (fun uid => .switchUnlocked uid route.uid) ++
        [.routeRemoved route.uid "TRAIN_CLEARED"] := by
  obtain ⟨hEntered, hFree, releaseTick, hTick, hLe⟩ := h
  rw [releaseRoute, if_neg (not_not_intro hEntered), if_neg (not_not_intro hFree), hTick]
  exact if_neg (Nat.not_lt.mpr hLe)

theorem mem_releaseRoute {s : EngineState} {tick : Nat} {route : RouteState} {c : DeviceStateChange}
    (h : c ∈ releaseRoute s tick route) :
    route.trainEntered = true ∧
      (IsDue s tick route ∨ ∃ releaseTick, c = .routeOverlapTimerStarted route.uid releaseTick) := by
  unfold releaseRoute at h
  split at h
  · cases h
  · rename_i hEntered
    split at h
    · cases h
    · rename_i hFree
      have hEntered := Decidable.not_not.mp hEntered
      have hFree := Decidable.not_not.mp hFree
      refine ⟨hEntered, ?_⟩
      cases hTick : route.overlapReleaseTick with
      | none =>
        rw [hTick] at h
        exact Or.inr ⟨_, List.mem_singleton.mp h⟩
      | some releaseTick =>
        simp only [hTick] at h
        split at h
        · cases h
        · rename_i hLe
          exact Or.inl ⟨hEntered, hFree, releaseTick, hTick, Nat.not_lt.mp hLe⟩

/-- The release of a route stops its signal, frees its switches and takes it off the map; before that its timer
is started. -/
theorem releaseRoute_cases {s : EngineState} {tick : Nat} {route : RouteState} {c : DeviceStateChange}
    (h : c ∈ releaseRoute s tick route) :
    IsDue s tick route ∧ (c = .signalAspectChange route.fromSignalUid .s1Stop .auto (some route.uid) ∨
      (∃ uid ∈ route.switchUids, c = .switchUnlocked uid route.uid) ∨ c = .routeRemoved route.uid "TRAIN_CLEARED") ∨
    ∃ releaseTick, c = .routeOverlapTimerStarted route.uid releaseTick := by
  rcases (mem_releaseRoute h).2 with hDue | hTimer
  · rw [releaseRoute_of_isDue hDue] at h
    simp only [List.mem_append, List.mem_singleton, List.mem_map] at h
    rcases h with (hStop | ⟨uid, hUid, hUnlock⟩) | hRemoved
    · exact Or.inl ⟨hDue, Or.inl hStop⟩
    · exact Or.inl ⟨hDue, Or.inr (Or.inl ⟨uid, hUid, hUnlock.symm⟩)⟩
    · exact Or.inl ⟨hDue, Or.inr (Or.inr hRemoved)⟩
  · exact Or.inr hTimer

theorem tickRouteAutoRelease_eq_nil {s : EngineState} (h : ∀ r ∈ s.routes.values, r.trainEntered = false)
    (tick : Nat) : tickRouteAutoRelease s tick = [] := by
  apply List.eq_nil_iff_forall_not_mem.mpr
  intro c hc
  obtain ⟨route, hRoute, hc⟩ := List.mem_flatMap.mp hc
  have hEntered := (mem_releaseRoute hc).1
  rw [h route hRoute] at hEntered
  cases hEntered

end Symulator.Srk
