import Symulator.Srk.BlockSections

/-! # The SHL-12 direction machine

`SetBlockDirection` asks for the present direction before it turns a block section. The operator and ML8
codes that do the same turn it whatever its direction is, so each of them is legal from some directions
only.
-/

namespace Symulator.Interlocking

open Symulator.Library Symulator.Engine Symulator.Srk

set_option autoImplicit false

def shl12Transition : BlockDirectionState → BlockDirectionState → Bool
  | .neutral, .outboundPending | .neutral, .inboundPending | .neutral, .resetPending => true
  | .outboundPending, .outbound | .outboundPending, .neutral => true
  | .inboundPending, .inbound => true
  | .outbound, .neutral | .inbound, .neutral => true
  | .emergency, .neutral | .resetPending, .neutral => true
  | .resetPending, .emergency => false
  | _, .emergency => true
  | _, _ => false

/-- Every block section that changes its direction does so along a transition of SHL-12. -/
def TurnsLegally (s t : EngineState) : Prop :=
  ∀ u bs bs', s.findBlockSection u = some bs → t.findBlockSection u = some bs' →
    bs'.direction ≠ bs.direction → shl12Transition bs.direction bs'.direction = true

/-- The directions from which an operator code turns a block section legally, if it turns it at all. -/
def operatorTurnsFrom (code : OperatorCommandCode) (d : BlockDirectionState) : Bool :=
  match code with
  | .blw | .bpz => d = .neutral ∨ d = .outboundPending
  | .blp | .poz => d = .outboundPending ∨ d = .inboundPending ∨ d = .outbound
  | .blo | .blz | .bla | .ops | .dpw => d ≠ .inboundPending
  | .blai | .dpwi => d ≠ .resetPending
  | _ => true

def ml8TurnsFrom (code : Ml8CommandCode) (d : BlockDirectionState) : Bool :=
  match code with
  | .wbl => d = .neutral ∨ d = .outboundPending
  | .pzk => d = .outboundPending ∨ d = .inboundPending ∨ d = .outbound
  | .blz | .zwbl | .owbl => d ≠ .inboundPending
  | .azk => d ≠ .resetPending
  | _ => true

/-- Every operator and ML8 code meets its block section in a direction it turns legally from. -/
def DirectionGuard {φ : Type} (w : World φ) : Action φ → Prop
  | .command (.operatorCommand cmd) =>
    ∀ bs, w.state.findBlockSection cmd.targetUid = some bs → operatorTurnsFrom cmd.code bs.direction = true
  | .command (.ml8Command cmd) =>
    ∀ bs, w.state.findBlockSection cmd.targetUid = some bs → ml8TurnsFrom cmd.code bs.direction = true
  | _ => True

/-- A direction given to a block section that stands in `d` is the one it has, or legal from there. -/
def LegalTurn (d : BlockDirectionState) (dir : Option BlockDirectionState) : Prop :=
  ∀ d', dir = some d' → d' ≠ d → shl12Transition d d' = true

theorem legalTurn_none (d : BlockDirectionState) : LegalTurn d none := by
  intro d' h
  cases h

theorem legalTurn_some {d d' : BlockDirectionState} :
    LegalTurn d (some d') ↔ (d' ≠ d → shl12Transition d d' = true) := by
  constructor
  · intro h
    exact h d' rfl
  · rintro h _ ⟨⟩
    exact h

theorem legalTurn_operatorTurn (d : BlockDirectionState) (code : OperatorCommandCode) :
    LegalTurn d (operatorTurn d code) ↔ operatorTurnsFrom code d = true := by
  cases code
  case blw | bpz | blp | poz | blo | blz | bla | ops | dpw | blai | dpwi =>
    rw [operatorTurn, legalTurn_some]
    cases d <;> decide
  all_goals exact iff_of_true (legalTurn_none d) rfl

theorem legalTurn_ml8Turn (d : BlockDirectionState) (code : Ml8CommandCode) :
    LegalTurn d (ml8Turn d code) ↔ ml8TurnsFrom code d = true := by
  cases code
  case wbl | pzk | azk | blz | zwbl | owbl =>
    rw [ml8Turn, legalTurn_some]
    cases d <;> decide
  all_goals exact iff_of_true (legalTurn_none d) rfl

/-- What `SetBlockDirection` has checked makes its turn legal. -/
theorem legalTurn_shl12Turn {s : EngineState} {uid : UID} {operation : Shl12Op} {bs : BlockSection}
    (hFind : s.findBlockSection uid = some bs) (h : checkSetBlockDirection s ⟨uid, operation⟩ = none) :
    LegalTurn bs.direction (some (shl12Turn bs.direction operation)) := by
  rw [legalTurn_some]
  cases operation <;> simp only [checkSetBlockDirection, hFind, violation] at h <;>
    cases hDirection : bs.direction <;> simp [hDirection] at h <;> decide

theorem legalTurn_resetPending {s : EngineState} {u : UID} {bs : BlockSection}
    (hFind : s.findBlockSection u = some bs) (h : checkInitAxleCounterReset s ⟨u⟩ = none) :
    LegalTurn bs.direction (some .resetPending) := by
  rw [legalTurn_some]
  simp only [checkInitAxleCounterReset, hFind, violation] at h
  cases hDirection : bs.direction <;> simp [hDirection] at h
  decide

theorem legalTurn_resetDone {s : EngineState} {u : UID} {bs : BlockSection}
    (hFind : s.findBlockSection u = some bs) (h : checkResetAxleCounter s ⟨u⟩ = none) :
    LegalTurn bs.direction (some .neutral) := by
  rw [legalTurn_some]
  simp only [checkResetAxleCounter, hFind, violation] at h
  cases hDirection : bs.direction <;> simp [hDirection] at h
  decide

section Step

variable {φ : Type} {dynamics : TrainDynamics φ} {w w' : World φ} {a : Action φ}

/-- A step is legal when what it gives to each block section is. -/
theorem turnsLegally_iff_turn (hStep : w.step dynamics a = some w') : TurnsLegally w.state w'.state ↔
    ∀ u bs, w.state.findBlockSection u = some bs → LegalTurn bs.direction (w.turn u bs.direction a) := by
  have hAfter : ∀ u bs, w.state.findBlockSection u = some bs →
      blockHeld w'.state u = some (afterTurn w.state.currentTick (bs.direction, bs.resetInitTick)
        (w.turn u bs.direction a)) := by
    intro u bs hFind
    rw [blockHeld_step hStep, blockHeld_of_find hFind]
    rfl
  constructor
  · intro h u bs hFind d' hTurn hNe
    have hHeld := hAfter u bs hFind
    rw [hTurn, afterTurn_some] at hHeld
    obtain ⟨bs', hFind', hEq⟩ := Option.map_eq_some_iff.mp hHeld
    obtain rfl : bs'.direction = d' := congrArg Prod.fst hEq
    exact h u bs bs' hFind hFind' hNe
  · intro h u bs bs' hFind hFind' hNe
    have hHeld := hAfter u bs hFind
    rw [blockHeld_of_find hFind', Option.some.injEq] at hHeld
    cases hTurn : w.turn u bs.direction a with
    | none =>
      rw [hTurn, afterTurn_none] at hHeld
      exact absurd (congrArg Prod.fst hHeld) hNe
    | some d' =>
      rw [hTurn, afterTurn_some] at hHeld
      obtain rfl : bs'.direction = d' := congrArg Prod.fst hHeld
      exact h u bs hFind bs'.direction hTurn hNe

theorem legalTurn_ite {u uid : UID} {d : BlockDirectionState} {dir : Option BlockDirectionState}
    (h : u = uid → LegalTurn d dir) : LegalTurn d (if u = uid then dir else none) := by
  split
  · rename_i hUid
    exact h hUid
  · exact legalTurn_none d

/-- An operator or ML8 code is legal when it is for the block section it names. -/
theorem forall_legalTurn_ite (s : EngineState) (uid : UID)
    (dir : BlockDirectionState → Option BlockDirectionState) :
    (∀ u bs, s.findBlockSection u = some bs →
      LegalTurn bs.direction (if u = uid then dir bs.direction else none)) ↔
    ∀ bs, s.findBlockSection uid = some bs → LegalTurn bs.direction (dir bs.direction) := by
  constructor
  · intro h bs hFind
    have hTurn := h uid bs hFind
    rwa [if_pos rfl] at hTurn
  · intro h u bs hFind
    refine legalTurn_ite ?_
    rintro rfl
    exact h bs hFind

theorem turnsLegally_step (hStep : w.step dynamics a = some w') :
    TurnsLegally w.state w'.state ↔ DirectionGuard w a := by
  rw [turnsLegally_iff_turn hStep]
  rcases World.step_cases hStep with ⟨cmd, rfl, hCheck, -⟩ | ⟨rfl, -⟩ | ⟨hCommand, -, -⟩
  · cases cmd
    case operatorCommand cmd =>
      refine (forall_legalTurn_ite w.state cmd.targetUid (fun d => operatorTurn d cmd.code)).trans ?_
      refine forall_congr' fun bs => forall_congr' fun _ => ?_
      exact legalTurn_operatorTurn bs.direction cmd.code
    case ml8Command cmd =>
      have hKind : w.control.kind = .ml8 := by
        cases hKind : w.control.kind with
        | ml8 => rfl
        | ebilock =>
          simp only [ControlSystem.checkCommand, hKind] at hCheck
          cases hCheck
      simp only [World.turn, ControlSystem.turn, hKind]
      refine (forall_legalTurn_ite w.state cmd.targetUid (fun d => ml8Turn d cmd.code)).trans ?_
      refine forall_congr' fun bs => forall_congr' fun _ => ?_
      exact legalTurn_ml8Turn bs.direction cmd.code
    case setBlockDirection cmd =>
      refine iff_of_true (fun u bs hFind => legalTurn_ite ?_) trivial
      rintro rfl
      exact legalTurn_shl12Turn hFind hCheck
    case initAxleCounterReset cmd =>
      refine iff_of_true (fun u bs hFind => legalTurn_ite ?_) trivial
      rintro rfl
      exact legalTurn_resetPending hFind hCheck
    case resetAxleCounter cmd =>
      refine iff_of_true (fun u bs hFind => legalTurn_ite ?_) trivial
      rintro rfl
      exact legalTurn_resetDone hFind hCheck
    all_goals exact iff_of_true (fun u bs _ => legalTurn_none bs.direction) trivial
  · exact iff_of_true (fun u bs _ => legalTurn_none bs.direction) trivial
  · cases a
    case command cmd => exact absurd rfl (hCommand cmd)
    all_goals exact iff_of_true (fun u bs _ => legalTurn_none bs.direction) trivial

end Step

/-- Block sections turn along the SHL-12 transitions in every step of a run exactly when every operator and
ML8 code of the run meets its block section in a direction it turns legally from. -/
theorem turns_legally_iff {φ : Type} {dynamics : TrainDynamics φ} {w₀ w : World φ} {actions : List (Action φ)}
    (hRun : run (World.step dynamics) w₀ actions = some w) :
    EachStep (World.step dynamics) (fun w _ w' => TurnsLegally w.state w'.state) w₀ actions ↔
      Guarded (World.step dynamics) DirectionGuard w₀ actions :=
  eachStep_iff_guarded (fun w _ w' => TurnsLegally w.state w'.state) (fun _ => True) DirectionGuard
    (fun _ _ _ _ hStep => turnsLegally_step hStep) (fun _ _ _ _ _ => trivial) trivial hRun

theorem turns_legally_line :
    EachStep (World.step World.idleTrains) (fun w _ w' => TurnsLegally w.state w'.state)
      (World.start .ml8 lineStation) [.command (.operatorCommand ⟨⟨41⟩, .blockSection, .blw⟩)] := by
  obtain ⟨w, hRun, -⟩ := World.exists_reachable .ml8 lineStation
    [.command (.operatorCommand ⟨⟨41⟩, .blockSection, .blw⟩)] (fun _ => true) ⟨[lineStation], _, rfl⟩
    (by decide +kernel)
  refine (turns_legally_iff hRun).mpr ⟨?_, fun _ _ => trivial⟩
  have hNeutral : ((loadedState lineStation).findBlockSection ⟨41⟩).all
      (fun bs => operatorTurnsFrom .blw bs.direction) = true := by decide +kernel
  exact fun bs hFind => (Option.all_eq_true _ _).mp hNeutral bs hFind

/-- An operator confirms a direction nobody asked for. -/
theorem neutralBlock_confirmed : ¬ ∀ w : World Unit, w.Reachable World.idleTrains → ∀ cmd w',
    w.step World.idleTrains (.command cmd) = some w' → TurnsLegally w.state w'.state := by
  intro h
  let cmd : Command := .operatorCommand ⟨⟨41⟩, .blockSection, .blp⟩
  have hLoaded : (World.start .ml8 lineStation).Loaded := ⟨[lineStation], _, rfl⟩
  have hStep : ((World.start .ml8 lineStation).step World.idleTrains (.command cmd)).any (fun w' =>
      (w'.state.findBlockSection ⟨41⟩).any (fun bs => bs.direction = .outbound)) = true := by decide +kernel
  obtain ⟨w', hStep, hTest⟩ := (Option.any_eq_true _ _).mp hStep
  obtain ⟨bs', hFind', hOutbound⟩ := (Option.any_eq_true _ _).mp hTest
  have hBefore : ((loadedState lineStation).findBlockSection ⟨41⟩).any
      (fun bs => bs.direction = .neutral) = true := by decide +kernel
  obtain ⟨bs, hFind, hNeutral⟩ := (Option.any_eq_true _ _).mp hBefore
  have hNe : bs'.direction ≠ bs.direction := by
    rw [of_decide_eq_true hNeutral, of_decide_eq_true hOutbound]
    decide
  have hLegal := h _ ⟨_, [], hLoaded, rfl⟩ cmd w' hStep ⟨41⟩ bs bs' hFind hFind' hNe
  rw [of_decide_eq_true hNeutral, of_decide_eq_true hOutbound] at hLegal
  cases hLegal

end Symulator.Interlocking
