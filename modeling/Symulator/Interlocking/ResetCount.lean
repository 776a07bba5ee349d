import Symulator.Interlocking.AxleReset

/-! # What an axle counter reset leaves behind

SLI and SLK lead a block section through its directions and close it. The count of its axles is no part of that:
it is set to zero by the SLK among the operator commands and by ZEROLO, and nothing else writes it.
-/

namespace Symulator.Interlocking

open Symulator.Library Symulator.Engine Symulator.Srk

set_option autoImplicit false

/-- The commands that set the axle count of the block section `u` to zero. -/
def zeroesAxles (u : UID) : Command → Bool
  | .operatorCommand cmd => cmd.targetUid = u ∧ cmd.targetKind = .blockSection ∧ cmd.code = .slk
  | .ml8Command cmd => cmd.targetUid = u ∧ cmd.targetKind = .blockSection ∧ cmd.code = .zerolo
  | _ => false

def zeroesCount {φ : Type} (u : UID) : Action φ → Bool
  | .command cmd => zeroesAxles u cmd
  | _ => false

/-- The block section is as a completed reset should leave it, and whatever happens later its axle count does
not stand in the way of closing or releasing it. -/
structure AfterReset {φ : Type} (dynamics : TrainDynamics φ) (w : World φ) (u : UID) : Prop where
  cleared : ∃ bs, w.state.findBlockSection u = some bs ∧ bs.direction = .neutral ∧ bs.state = .closed ∧
    bs.axleCount = 0 ∧ bs.resetInitTick = none
  closable : ∀ later w', run (World.step dynamics) w later = some w' →
    checkSetBlockSection w'.state ⟨u, .closed⟩ = none
  releasable : ∀ later w', run (World.step dynamics) w later = some w' →
    checkOperatorCommand w'.state ⟨u, .blockSection, .blz⟩ = none ∧
      ∀ v, checkSetBlockDirection w'.state ⟨u, .blz⟩ = some v → v.reasonCode ≠ nakSafetyBlock

/-! ## The count along a run -/

theorem reset_not_mem_of_isRouteSide {cs : List DeviceStateChange} (h : ∀ c ∈ cs, isRouteSide c = true) (u : UID)
    (kind : OperatorTargetKind) : .axleCounterResetChange u kind ∉ cs := by
  intro hMem
  have hSide := h _ hMem
  cases hSide

theorem reset_mem_executeOperatorCommand {s : EngineState} {cmd : OperatorCommandCmd} {throwTimeTicks : Int} {u : UID} :
    .axleCounterResetChange u .blockSection ∈ executeOperatorCommand s cmd throwTimeTicks ↔
      zeroesAxles u (.operatorCommand cmd) = true := by
  obtain ⟨uid, kind, code⟩ := cmd
  rw [executeOperatorCommand, List.mem_cons, or_iff_right (by simp)]
  cases code
  case slk => simp [zeroesAxles, @eq_comm _ u uid, @eq_comm _ OperatorTargetKind.blockSection kind]
  case ses => simp [zeroesAxles, reset_not_mem_of_isRouteSide (isRouteSide_setSignalToStop s uid)]
  case zwp | zbp | zwm | zbm => simp [zeroesAxles, reset_not_mem_of_isRouteSide (isRouteSide_setPoints s uid _ _ _)]
  case blp | poz =>
    simp only [confirmBlockDirection]
    split <;> simp [zeroesAxles]
  all_goals simp [zeroesAxles]

theorem reset_mem_executeMl8Command {s : EngineState} {cmd : Ml8CommandCmd} {throwTimeTicks : Int} {u : UID} :
    .axleCounterResetChange u .blockSection ∈ executeMl8Command s cmd throwTimeTicks ↔
      zeroesAxles u (.ml8Command cmd) = true := by
  obtain ⟨uid, kind, code⟩ := cmd
  rw [executeMl8Command, List.mem_cons, or_iff_right (by simp)]
  cases code
  case zerolo => simp [zeroesAxles, @eq_comm _ u uid, @eq_comm _ OperatorTargetKind.blockSection kind]
  case stoj | stj | stop => simp [zeroesAxles, reset_not_mem_of_isRouteSide (isRouteSide_setSignalToStop s uid)]
  case sz | nsz =>
    dsimp only
    split <;> simp [zeroesAxles]
  case pz | dpz => simp [zeroesAxles, reset_not_mem_of_isRouteSide (isRouteSide_setPoints s uid _ _ _)]
  case pzk =>
    simp only [confirmBlockDirection]
    split <;> simp [zeroesAxles]
  all_goals simp [zeroesAxles]

theorem reset_mem_changesOf {sys : ControlSystem} {s : EngineState} {cmd : Command} {u : UID}
    (hCheck : sys.checkCommand s cmd = none) :
    .axleCounterResetChange u .blockSection ∈ sys.changesOf s cmd ↔ zeroesAxles u cmd = true := by
  have hNever : ∀ cs : List DeviceStateChange, (∀ c ∈ cs, isRouteSide c = true) →
      (.axleCounterResetChange u .blockSection ∈ cs ↔ false = true) := by
    intro cs hcs
    simp [reset_not_mem_of_isRouteSide hcs]
  cases cmd
  case requestRoute => exact hNever _ isRouteSide_request
  case cancelRoute => exact hNever _ isRouteSide_cancel
  case setSwitchPosition cmd => exact hNever _ (isRouteSide_effect (.switch cmd.uid cmd.position) _)
  case operatorCommand => exact reset_mem_executeOperatorCommand
  case ml8Command cmd =>
    obtain ⟨kind, throwTimeTicks, targets⟩ := sys
    cases kind with
    | ebilock => cases hCheck
    | ml8 => exact reset_mem_executeMl8Command
  case setBlockDirection cmd =>
    obtain ⟨uid, operation⟩ := cmd
    simp only [ControlSystem.changesOf, executeSetBlockDirection, zeroesAxles]
    split
    · simp
    · cases operation
      case blp =>
        dsimp only
        split <;> simp
      all_goals simp
  all_goals simp [zeroesAxles, ControlSystem.changesOf, executeSetSignalAspect, executeSetDerailerPosition,
    executeSetBlockSection, executeAcknowledgeAlarm, executeInitAxleCounterReset, executeResetAxleCounter]

theorem blockAxleCountWrite_ne_none {u : UID} {c : DeviceStateChange} :
    blockAxleCountWrite u c ≠ none ↔ c = .axleCounterResetChange u .blockSection := by
  unfold blockAxleCountWrite
  split
  · simp [@eq_comm _ u]
  · rename_i hNot
    simpa using hNot u

theorem blockAxleCount_of_resets {s : EngineState} {cs : List DeviceStateChange} {u : UID} {resets : Bool}
    (h : .axleCounterResetChange u .blockSection ∈ cs ↔ resets = true) :
    (blockAxleCount u).read (applyAll s cs) =
      ((blockAxleCount u).read s).map (fun n => if resets = true then 0 else n) := by
  refine Register.read_foldl_of_iff (blockAxleCount u) s ?_ ?_
  · rintro ⟨c, -, n, hWrite, hNot⟩
    have hReset : c = _ := blockAxleCountWrite_ne_none.mp (hWrite ▸ Option.some_ne_none n)
    subst hReset
    simp [blockAxleCount, blockAxleCountWrite] at hWrite
    exact hNot hWrite.symm
  · rw [← h]
    constructor
    · exact fun hMem => ⟨_, hMem, blockAxleCountWrite_ne_none.mpr rfl⟩
    · rintro ⟨c, hMem, hWrite⟩
      rwa [← blockAxleCountWrite_ne_none.mp hWrite]

section Run

variable {φ : Type} {dynamics : TrainDynamics φ} {w w' : World φ} {u : UID}

/-- A step leaves the axle count of a block section alone, or it is a command that sets it to zero. -/
theorem blockAxleCount_step {a : Action φ} (hStep : w.step dynamics a = some w') :
    (blockAxleCount u).read w'.state =
      ((blockAxleCount u).read w.state).map (fun n => if zeroesCount u a = true then 0 else n) := by
  rcases World.step_cases hStep with ⟨cmd, rfl, hCheck, hState⟩ | ⟨rfl, hState⟩ | ⟨hCommand, -, t, hOcc, hState⟩
  · rw [hState]
    exact blockAxleCount_of_resets (reset_mem_changesOf hCheck)
  · rw [hState]
    refine blockAxleCount_of_resets ?_
    simp [zeroesCount, reset_not_mem_of_isRouteSide isRouteSide_onTick]
  · have hNot : zeroesCount u a = false := by
      cases a <;> first | rfl | exact absurd rfl (hCommand _)
    have hSame : w'.state.blockSections = w.state.blockSections := by
      rcases hState with hState | hState
      · rw [hState, blockSections_of_onlyOccupancy hOcc]
      · rw [hState, EngineState.setCurrentTick, blockSections_of_onlyOccupancy hOcc]
    have hRead : (blockAxleCount u).read w'.state = (blockAxleCount u).read w.state := by
      simp only [blockAxleCount, EngineState.findBlockSection, hSame]
    rw [hRead, hNot]
    exact (congrFun Option.map_id_fun' _).symm

theorem blockAxleCount_run {actions : List (Action φ)} (hRun : run (World.step dynamics) w actions = some w') :
    (blockAxleCount u).read w'.state =
      ((blockAxleCount u).read w.state).map (fun n => if actions.any (zeroesCount u) = true then 0 else n) := by
  induction actions generalizing w with
  | nil =>
    cases hRun
    simp
  | cons a actions ih =>
    obtain ⟨v, hFirst, hRest⟩ := run_cons.mp hRun
    rw [ih hRest, blockAxleCount_step hFirst, Option.map_map]
    congr 1
    funext n
    rw [Function.comp_apply, List.any_cons]
    cases zeroesCount u a <;> cases actions.any (zeroesCount u) <;> rfl

theorem axleCount_eq_zero_iff {s : EngineState} : (blockAxleCount u).read s = some 0 ↔
    ∃ bs, s.findBlockSection u = some bs ∧ bs.axleCount = 0 := Option.map_eq_some_iff

theorem axleCount_eq_zero_of_run {actions : List (Action φ)} (hRun : run (World.step dynamics) w actions = some w')
    {bs : BlockSection} (hFind : w.state.findBlockSection u = some bs) (hAxles : bs.axleCount = 0) :
    ∃ bs', w'.state.findBlockSection u = some bs' ∧ bs'.axleCount = 0 := by
  have hRead := @blockAxleCount_run _ _ _ _ u _ hRun
  rw [axleCount_eq_zero_iff.mpr ⟨bs, hFind, hAxles⟩, Option.map_some, ite_self] at hRead
  exact axleCount_eq_zero_iff.mp hRead

theorem closes_of_clear {s : EngineState} {bs : BlockSection} (hFind : s.findBlockSection u = some bs)
    (hAxles : bs.axleCount = 0) : checkSetBlockSection s ⟨u, .closed⟩ = none := by
  simp [checkSetBlockSection, hFind, hAxles]

theorem releases_of_clear {s : EngineState} {bs : BlockSection} (hFind : s.findBlockSection u = some bs)
    (hAxles : bs.axleCount = 0) : checkOperatorCommand s ⟨u, .blockSection, .blz⟩ = none ∧
      ∀ v, checkSetBlockDirection s ⟨u, .blz⟩ = some v → v.reasonCode ≠ nakSafetyBlock := by
  constructor
  · simp [checkOperatorCommand, targetExists, hFind, hAxles]
  · intro v hRefused
    simp only [checkSetBlockDirection, hFind, hAxles, ne_eq, not_true_eq_false, if_false] at hRefused
    split at hRefused
    · cases hRefused
      exact (by decide : nakInvalidState ≠ nakSafetyBlock)
    · cases hRefused

theorem findBlockSection_reset (hStep : w.step dynamics (.command (.resetAxleCounter ⟨u⟩)) = some w')
    {bs : BlockSection} (hFind : w.state.findBlockSection u = some bs) :
    w'.state.findBlockSection u =
      some { bs with direction := .neutral, state := .closed, resetInitTick := none } := by
  rcases World.step_cases hStep with ⟨cmd, hCmd, -, hState⟩ | ⟨hTick, -⟩ | ⟨hNot, -⟩
  · cases hCmd
    rw [hState]
    change ((w.state.applyBlockSectionDirection u .neutral).applyBlockSectionState u .closed).findBlockSection u = _
    have hKept : w.state.blockSections.find u = some bs := hFind
    simp [EngineState.applyBlockSectionState, EngineState.applyBlockSectionDirection, EngineState.findBlockSection,
      hKept]
  · cases hTick
  · exact absurd rfl (hNot _)

theorem afterReset_iff (hStep : w.step dynamics (.command (.resetAxleCounter ⟨u⟩)) = some w') :
    AfterReset dynamics w' u ↔ ∃ bs, w.state.findBlockSection u = some bs ∧ bs.axleCount = 0 := by
  rcases World.step_cases hStep with ⟨cmd, hCmd, hCheck, -⟩ | ⟨hTick, -⟩ | ⟨hNot, -⟩
  · cases hCmd
    obtain ⟨since, hHeld, -⟩ := checkResetAxleCounter_eq_none hCheck
    obtain ⟨bs, hFind, -⟩ := Option.map_eq_some_iff.mp hHeld
    have hAfter := findBlockSection_reset hStep hFind
    constructor
    · intro h
      obtain ⟨bs', hFind', -, -, hAxles, -⟩ := h.cleared
      rw [hAfter] at hFind'
      cases hFind'
      exact ⟨bs, hFind, hAxles⟩
    · rintro ⟨bs', hFind', hAxles⟩
      rw [hFind] at hFind'
      cases hFind'
      constructor
      case cleared => exact ⟨_, hAfter, rfl, rfl, hAxles, rfl⟩
      case closable =>
        intro later w'' hLater
        obtain ⟨bs'', hLast, hNone⟩ := axleCount_eq_zero_of_run hLater hAfter hAxles
        exact closes_of_clear hLast hNone
      case releasable =>
        intro later w'' hLater
        obtain ⟨bs'', hLast, hNone⟩ := axleCount_eq_zero_of_run hLater hAfter hAxles
        exact releases_of_clear hLast hNone
  · cases hTick
  · exact absurd rfl (hNot _)

end Run

/-- After a run with an SLI and a later SLK for the block section, the reset has left it as it should exactly when
no axles were counted in it to begin with, or a command of the run set the count to zero. -/
theorem resetAxleCounter_clears_iff {φ : Type} {dynamics : TrainDynamics φ} {w₀ w : World φ}
    {before during : List (Action φ)} {u : UID} (hRun : run (World.step dynamics) w₀
      (before ++ .command (.initAxleCounterReset ⟨u⟩) :: during ++ [.command (.resetAxleCounter ⟨u⟩)]) = some w) :
    AfterReset dynamics w u ↔ (∃ bs, w₀.state.findBlockSection u = some bs ∧ bs.axleCount = 0) ∨
      ∃ a ∈ before ++ during, zeroesCount u a = true := by
  obtain ⟨v, hUntil, hLast⟩ := run_append.mp hRun
  obtain ⟨w', hReset, hDone⟩ := run_cons.mp hLast
  cases hDone
  have hRead := @blockAxleCount_run _ _ _ _ u _ hUntil
  have hKnown : (blockAxleCount u).read v.state ≠ none := by
    rcases World.step_cases hReset with ⟨cmd, hCmd, hCheck, -⟩ | ⟨hTick, -⟩ | ⟨hNot, -⟩
    · cases hCmd
      obtain ⟨since, hHeld, -⟩ := checkResetAxleCounter_eq_none hCheck
      obtain ⟨bs, hFind, -⟩ := Option.map_eq_some_iff.mp hHeld
      simp [blockAxleCount, hFind]
    · cases hTick
    · exact absurd rfl (hNot _)
  have hZeroed : ((before ++ .command (.initAxleCounterReset ⟨u⟩) :: during).any (zeroesCount u) = true) ↔
      ∃ a ∈ before ++ during, zeroesCount u a = true := by
    simp [zeroesCount, zeroesAxles, or_and_right, exists_or]
  rw [afterReset_iff hReset, ← axleCount_eq_zero_iff, ← axleCount_eq_zero_iff, ← hZeroed, hRead]
  rw [hRead, ne_eq, Option.map_eq_none_iff] at hKnown
  obtain ⟨n, hCounted⟩ := Option.ne_none_iff_exists'.mp hKnown
  rw [hCounted, Option.map_some, Option.some.injEq, Option.some.injEq]
  split
  · rename_i hAny
    simp [hAny]
  · rename_i hNone
    simp [hNone]

/-- The line station, with three axles counted in its block section. -/
def axlesOnLine : World Unit :=
  { World.start .ml8 lineStation with state := (loadedState lineStation).applyBlockSectionAxleCount ⟨41⟩ 3 }

/-- SLI for the block section, and a minute during which `more` happens. -/
def resetMinute (more : List (Action Unit)) : List (Action Unit) := more ++ List.replicate 1200 .advanceTick

theorem resetAxleCounter_clears_line : ∃ w,
    run (World.step World.idleTrains) axlesOnLine ([] ++ .command (.initAxleCounterReset ⟨⟨41⟩⟩) ::
      resetMinute [.command (.operatorCommand ⟨⟨41⟩, .blockSection, .slk⟩)] ++
        [.command (.resetAxleCounter ⟨⟨41⟩⟩)]) = some w ∧ AfterReset World.idleTrains w ⟨41⟩ := by
  have hRuns : (run (World.step World.idleTrains) axlesOnLine ([] ++ .command (.initAxleCounterReset ⟨⟨41⟩⟩) ::
      resetMinute [.command (.operatorCommand ⟨⟨41⟩, .blockSection, .slk⟩)] ++
        [.command (.resetAxleCounter ⟨⟨41⟩⟩)])).isSome = true := by decide +kernel
  obtain ⟨w, hRun⟩ := Option.isSome_iff_exists.mp hRuns
  refine ⟨w, hRun, (resetAxleCounter_clears_iff hRun).mpr (Or.inr ?_)⟩
  exact ⟨_, List.mem_append_right _ (List.mem_append_left _ List.mem_cons_self), by decide⟩

/-- With no other command between them, SLI and SLK leave the three axles counted. -/
theorem resetAxleCounter_keeps_count : ¬ ∀ (w₀ w : World Unit) (before during : List (Action Unit)) (u : UID),
    run (World.step World.idleTrains) w₀ (before ++ .command (.initAxleCounterReset ⟨u⟩) :: during ++
      [.command (.resetAxleCounter ⟨u⟩)]) = some w → AfterReset World.idleTrains w u := by
  intro h
  have hRuns : (run (World.step World.idleTrains) axlesOnLine ([] ++ .command (.initAxleCounterReset ⟨⟨41⟩⟩) ::
      resetMinute [] ++ [.command (.resetAxleCounter ⟨⟨41⟩⟩)])).any (fun w =>
        (w.state.findBlockSection ⟨41⟩).any fun bs => decide (bs.axleCount = 3)) = true := by decide +kernel
  obtain ⟨w, hRun, hCount⟩ := (Option.any_eq_true _ _).mp hRuns
  obtain ⟨bs, hFind, hThree⟩ := (Option.any_eq_true _ _).mp hCount
  obtain ⟨bs', hFind', -, -, hAxles, -⟩ := (h axlesOnLine w [] (resetMinute []) ⟨41⟩ hRun).cleared
  rw [hFind] at hFind'
  cases hFind'
  rw [of_decide_eq_true hThree] at hAxles
  cases hAxles

end Symulator.Interlocking
