import Symulator.Srk.BlockSections

/-! # Sixty seconds between SLI and SLK

The direction of a block section tells whether its axle counter reset is pending, and the tick stored with
it tells since when. Only SLI begins a reset, and it does so from the neutral direction, so the stored tick
is that of the SLI that began the present one.
-/

namespace Symulator.Interlocking

open Symulator.Library Symulator.Engine Symulator.Srk

set_option autoImplicit false

def ResetPending (s : EngineState) (u : UID) : Prop :=
  ∃ bs, s.findBlockSection u = some bs ∧ bs.direction = .resetPending

theorem resetPending_iff {s : EngineState} {u : UID} :
    ResetPending s u ↔ ∃ since, blockHeld s u = some (.resetPending, since) := by
  constructor
  · rintro ⟨bs, hFind, hDirection⟩
    exact ⟨bs.resetInitTick, by rw [blockHeld_of_find hFind, hDirection]⟩
  · rintro ⟨since, hHeld⟩
    obtain ⟨bs, hFind, hEq⟩ := Option.map_eq_some_iff.mp hHeld
    exact ⟨bs, hFind, congrArg Prod.fst hEq⟩

theorem checkInitAxleCounterReset_eq_none {s : EngineState} {u : UID}
    (h : checkInitAxleCounterReset s ⟨u⟩ = none) :
    ∃ bs, s.findBlockSection u = some bs ∧ bs.direction = .neutral := by
  unfold checkInitAxleCounterReset at h
  split at h
  · cases h
  · rename_i bs hFind
    split at h
    · cases h
    · rename_i hNeutral
      exact ⟨bs, hFind, Decidable.not_not.mp hNeutral⟩

theorem checkResetAxleCounter_eq_none {s : EngineState} {u : UID} (h : checkResetAxleCounter s ⟨u⟩ = none) :
    ∃ since, blockHeld s u = some (.resetPending, some since) ∧
      since + 60 * engineTicksPerSecond ≤ s.currentTick := by
  unfold checkResetAxleCounter at h
  split at h
  · cases h
  · rename_i bs hFind
    split at h
    · cases h
    · rename_i hPending
      split at h
      · cases h
      · rename_i since hSince
        split at h
        · cases h
        · rename_i hWaited
          refine ⟨since, ?_, Nat.not_lt.mp hWaited⟩
          rw [blockHeld_of_find hFind, hSince, Decidable.not_not.mp hPending]

theorem turn_eq_resetPending {sys : ControlSystem} {u : UID} {d : BlockDirectionState} {cmd : Command}
    (h : sys.turn u d cmd = some .resetPending) : cmd = .initAxleCounterReset ⟨u⟩ := by
  have hConfirmed : ∀ d, confirmedDirection d ≠ .resetPending := by
    intro d
    cases d <;> simp [confirmedDirection]
  cases cmd
  case initAxleCounterReset cmd =>
    obtain ⟨uid⟩ := cmd
    simp only [ControlSystem.turn] at h
    split at h
    · rename_i hUid
      rw [hUid]
    · cases h
  case setBlockDirection cmd =>
    obtain ⟨uid, operation⟩ := cmd
    simp only [ControlSystem.turn] at h
    split at h
    · cases operation <;> simp only [shl12Turn, Option.some.injEq] at h
      case blp => split at h <;> cases h
      all_goals cases h
    · cases h
  case operatorCommand cmd =>
    obtain ⟨uid, kind, code⟩ := cmd
    simp only [ControlSystem.turn] at h
    split at h
    · cases code
      case blp | poz => exact absurd (Option.some.inj h) (hConfirmed d)
      all_goals cases h
    · cases h
  case ml8Command cmd =>
    obtain ⟨uid, kind, code⟩ := cmd
    obtain ⟨sysKind, throwTimeTicks, targets⟩ := sys
    cases sysKind with
    | ebilock => cases h
    | ml8 =>
      simp only [ControlSystem.turn] at h
      split at h
      · cases code
        case pzk => exact absurd (Option.some.inj h) (hConfirmed d)
        all_goals cases h
      · cases h
  case resetAxleCounter cmd =>
    simp only [ControlSystem.turn] at h
    split at h <;> cases h
  all_goals cases h

section Step

variable {φ : Type} {dynamics : TrainDynamics φ} {w w' : World φ} {a : Action φ} {u : UID}

/-- A step after which the reset is pending is the SLI that begins it, or leaves the block section alone. -/
theorem resetPending_step (hStep : w.step dynamics a = some w') (h : ResetPending w'.state u) :
    a = .command (.initAxleCounterReset ⟨u⟩) ∧ ¬ ResetPending w.state u ∧
      blockHeld w'.state u = some (.resetPending, some w.state.currentTick) ∨
    blockHeld w'.state u = blockHeld w.state u := by
  obtain ⟨since, hAfter⟩ := resetPending_iff.mp h
  have hHeld := blockHeld_step hStep u
  cases hBefore : blockHeld w.state u with
  | none =>
    rw [hBefore, hAfter] at hHeld
    cases hHeld
  | some held =>
    rw [hBefore, Option.map_some] at hHeld
    cases hTurn : w.turn u held.1 a with
    | none =>
      rw [hTurn] at hHeld
      exact Or.inr hHeld
    | some dir =>
      rw [hTurn, afterTurn_some] at hHeld
      have hDir : dir = .resetPending := congrArg Prod.fst (Option.some.inj (hHeld.symm.trans hAfter))
      subst hDir
      cases a with
      | command cmd =>
        obtain rfl : cmd = _ := turn_eq_resetPending hTurn
        refine Or.inl ⟨rfl, ?_, hHeld⟩
        rintro ⟨bs, hFind, hPending⟩
        rcases World.step_cases hStep with ⟨cmd, hCmd, hCheck, -⟩ | ⟨hTick, -⟩ | ⟨hNot, -⟩
        · cases hCmd
          obtain ⟨bs', hFind', hNeutral⟩ := checkInitAxleCounterReset_eq_none hCheck
          rw [hFind] at hFind'
          cases hFind'
          rw [hPending] at hNeutral
          cases hNeutral
        · cases hTick
        · exact hNot _ rfl
      | onTick | fleetCommand | tickTrains | advanceTick => cases hTurn

end Step

theorem not_resetPending_of_loaded {φ : Type} {w : World φ} (h : w.Loaded) (u : UID) :
    ¬ ResetPending w.state u := by
  obtain ⟨dirs, results, hLoad⟩ := h
  rintro ⟨bs, hFind, hPending⟩
  exact (blocksFresh_of_loadWorld hLoad).direction bs (KeyedMap.find_eq_some_iff.mp hFind).1 hPending

/-- Along a stretch with the reset pending its tick stays as it is. -/
theorem pendingSince_of_always {φ : Type} {dynamics : TrainDynamics φ} {w w' : World φ}
    {actions : List (Action φ)} {u : UID} {since : Nat}
    (h : Always (World.step dynamics) (fun w => ResetPending w.state u) w actions)
    (hSince : blockHeld w.state u = some (.resetPending, some since))
    (hRun : run (World.step dynamics) w actions = some w') :
    blockHeld w'.state u = some (.resetPending, some since) := by
  let Since : World φ → Prop := fun w => blockHeld w.state u = some (.resetPending, some since)
  have hKept : ∀ w a w', ResetPending w.state u → ResetPending w'.state u → Since w →
      w.step dynamics a = some w' → Since w' := by
    intro w a w' hPending hPending' hHeld hStep
    rcases resetPending_step hStep hPending' with ⟨-, hNot, -⟩ | hSame
    · exact absurd hPending hNot
    · exact hSame.trans hHeld
  exact h.invariant hKept hSince hRun

/-- Where SLK is accepted after a run from a loaded world, the run has an SLI for the same block section at
least sixty seconds earlier, and the reset has been pending in every state since. -/
theorem resetAxleCounter_waits {φ : Type} {dynamics : TrainDynamics φ} {w₀ w : World φ}
    {actions : List (Action φ)} (hLoaded : w₀.Loaded) (hRun : run (World.step dynamics) w₀ actions = some w)
    {u : UID} (hCheck : w.control.checkCommand w.state (.resetAxleCounter ⟨u⟩) = none) :
    ∃ before after v v', actions = before ++ .command (.initAxleCounterReset ⟨u⟩) :: after ∧
      run (World.step dynamics) w₀ before = some v ∧
      v.step dynamics (.command (.initAxleCounterReset ⟨u⟩)) = some v' ∧
      run (World.step dynamics) v' after = some w ∧
      v.state.currentTick + 60 * engineTicksPerSecond ≤ w.state.currentTick ∧
      Always (World.step dynamics) (fun w => ResetPending w.state u) v' after := by
  obtain ⟨since, hHeld, hWaited⟩ := checkResetAxleCounter_eq_none hCheck
  let Pending : World φ → Prop := fun w => ResetPending w.state u
  have hStart : ¬ Pending w₀ := not_resetPending_of_loaded hLoaded u
  have hEnd : Pending w := resetPending_iff.mpr ⟨some since, hHeld⟩
  obtain ⟨before, a, after, v, v', rfl, hBefore, hStep, hAfter, hNot, hAlways⟩ :=
    exists_last_entry hStart hEnd hRun
  rcases resetPending_step hStep hAlways.head with ⟨rfl, -, hBegun⟩ | hSame
  · have hSince := pendingSince_of_always hAlways hBegun hAfter
    rw [hHeld] at hSince
    cases hSince
    exact ⟨before, after, v, v', rfl, hBefore, hStep, hAfter, hWaited, hAlways⟩
  · obtain ⟨at', hHeld'⟩ := resetPending_iff.mp hAlways.head
    exact absurd (resetPending_iff.mpr ⟨at', hSame.symm.trans hHeld'⟩) hNot

theorem resetAxleCounter_waits_line : ∃ w : World Unit,
    run (World.step World.idleTrains) (World.start .ml8 lineStation)
      (.command (.initAxleCounterReset ⟨⟨41⟩⟩) :: List.replicate 1200 .advanceTick) = some w ∧
    ∃ before after v v', .command (.initAxleCounterReset ⟨⟨41⟩⟩) :: List.replicate 1200 .advanceTick =
        before ++ .command (.initAxleCounterReset ⟨⟨41⟩⟩) :: after ∧
      run (World.step World.idleTrains) (World.start .ml8 lineStation) before = some v ∧
      v.step World.idleTrains (.command (.initAxleCounterReset ⟨⟨41⟩⟩)) = some v' ∧
      run (World.step World.idleTrains) v' after = some w ∧
      v.state.currentTick + 60 * engineTicksPerSecond ≤ w.state.currentTick ∧
      Always (World.step World.idleTrains) (fun w => ResetPending w.state ⟨41⟩) v' after := by
  have hLoaded : (World.start .ml8 lineStation).Loaded := ⟨[lineStation], _, rfl⟩
  obtain ⟨w, hRun, -, hTest⟩ := World.exists_reachable .ml8 lineStation
    (.command (.initAxleCounterReset ⟨⟨41⟩⟩) :: List.replicate 1200 .advanceTick)
    (fun w => (w.control.checkCommand w.state (.resetAxleCounter ⟨⟨41⟩⟩)).isNone) hLoaded (by decide +kernel)
  exact ⟨w, hRun, resetAxleCounter_waits hLoaded hRun (Option.isNone_iff_eq_none.mp hTest)⟩

end Symulator.Interlocking
