import Symulator.Srk.BlockSections

/-! # Operator commands in two steps

Some operator commands are to be initialised by one code and executed by another. The check of an executing
code asks only whether its target exists, so the two steps are taken where the operator takes them.
-/

namespace Symulator.Interlocking

open Symulator.Library Symulator.Engine Symulator.Srk

set_option autoImplicit false

/-! ## Codes in order -/

/-- The code that has to come before an executing code. -/
def initialisingCode : OperatorCommandCode → Option OperatorCommandCode
  | .szw | .szn => some .szi
  | .slk => some .sli
  | .bla => some .blai
  | .dpw => some .dpwi
  | .zrk => some .zri
  | _ => none

/-- The command that `init` initialises is over: it has been executed or revoked. -/
def endsInit (init code : OperatorCommandCode) : Bool :=
  code = .szo ∨ code = .ops ∨ initialisingCode code = some init

def pendingStep (init : OperatorCommandCode) (pending : Bool) (code : OperatorCommandCode) : Bool :=
  if code = init then true else if endsInit init code then false else pending

/-- The command that `init` initialises is pending after these codes, the oldest first. -/
def pendingAfter (init : OperatorCommandCode) (codes : List OperatorCommandCode) : Bool :=
  codes.foldl (pendingStep init) false

/-- The codes whose check asks for more than that their target exists. -/
def isCheckedCode : OperatorCommandCode → Bool
  | .zwp | .zwm | .zbp | .zbm | .blz => true
  | _ => false

theorem pendingStep_of_isCheckedCode {init code : OperatorCommandCode} (hInit : ∃ c, initialisingCode c = some init)
    (h : isCheckedCode code = true) (pending : Bool) : pendingStep init pending code = pending := by
  obtain ⟨c, hc⟩ := hInit
  have hOr : init = .szi ∨ init = .sli ∨ init = .blai ∨ init = .dpwi ∨ init = .zri := by
    cases c <;> simp [initialisingCode] at hc <;> simp [← hc]
  cases code
  case zwp | zwm | zbp | zbm | blz => rcases hOr with rfl | rfl | rfl | rfl | rfl <;> rfl
  all_goals cases h

theorem isCheckedCode_of_initialisingCode {code init : OperatorCommandCode} (h : initialisingCode code = some init) :
    isCheckedCode code = false := by
  cases code <;> first | rfl | cases h

section Runs

variable {φ : Type} (dynamics : TrainDynamics φ) (uid : UID) (kind : OperatorTargetKind)

/-- The code an action sends to the target, if it sends one. -/
def codeOn : Action φ → Option OperatorCommandCode
  | .command (.operatorCommand cmd) => if cmd.targetUid = uid ∧ cmd.targetKind = kind then some cmd.code else none
  | _ => none

/-- The codes that the target accepts while the actions are attempted in order. -/
def acceptedCodes : World φ → List (Action φ) → List OperatorCommandCode
  | _, [] => []
  | w, a :: actions =>
    (if (w.step dynamics a).isSome then (codeOn uid kind a).toList else []) ++
      acceptedCodes (w.attempt dynamics a) actions

/-- Every executing code that the target accepts finds its own initialising code accepted before, and neither
executed nor revoked since. -/
def TakesTwoSteps (w : World φ) (actions : List (Action φ)) : Prop :=
  ∀ before code init after, actions = before ++ .command (.operatorCommand ⟨uid, kind, code⟩) :: after →
    initialisingCode code = some init →
    (w.attempts dynamics before).control.checkCommand (w.attempts dynamics before).state
      (.operatorCommand ⟨uid, kind, code⟩) = none →
    pendingAfter init (acceptedCodes dynamics uid kind w before) = true

/-- Every executing code is sent to the target after its own initialising code, with no code in between that
executes or revokes it. -/
def SentInTwoSteps (actions : List (Action φ)) : Prop :=
  ∀ before code init after, actions = before ++ .command (.operatorCommand ⟨uid, kind, code⟩) :: after →
    initialisingCode code = some init → pendingAfter init (before.filterMap (codeOn uid kind)) = true

end Runs

/-! ## What the check asks for -/

theorem checkOperatorCommand_eq_none {s : EngineState} {uid : UID} {kind : OperatorTargetKind}
    {code : OperatorCommandCode} (h : isCheckedCode code = false) :
    checkOperatorCommand s ⟨uid, kind, code⟩ = none ↔ targetExists s uid kind = true := by
  unfold checkOperatorCommand
  by_cases hTarget : targetExists s uid kind = true
  · rw [if_neg (not_not_intro hTarget)]
    refine iff_of_true ?_ hTarget
    cases code <;> first | rfl | cases h
  · rw [if_pos hTarget]
    exact iff_of_false (Option.some_ne_none _) hTarget

theorem isSome_findBlockSection_applyAll (s : EngineState) (cs : List DeviceStateChange) (uid : UID) :
    ((applyAll s cs).findBlockSection uid).isSome = (s.findBlockSection uid).isSome := by
  induction cs generalizing s with
  | nil => rfl
  | cons c cs ih => rw [applyAll_cons, ih, findBlockSection_apply, Option.isSome_map]

theorem targetExists_congr {s t : EngineState} (hTopology : t.topology = s.topology)
    (hBlocks : ∀ uid, (t.findBlockSection uid).isSome = (s.findBlockSection uid).isSome) (uid : UID)
    (kind : OperatorTargetKind) : targetExists t uid kind = targetExists s uid kind := by
  cases kind
  case signal => exact isSome_findSignal hTopology uid
  case switch =>
    simp only [targetExists, isSome_findSwitch hTopology uid, isSome_findDerailer hTopology uid]
  case derailer => exact isSome_findDerailer hTopology uid
  case trackSection => exact isSome_findTrackSection hTopology uid
  case blockSection => exact hBlocks uid
  all_goals rfl

section Runs

variable {φ : Type} {dynamics : TrainDynamics φ} {uid : UID} {kind : OperatorTargetKind}

theorem targetExists_step {w w' : World φ} {a : Action φ} (hStep : w.step dynamics a = some w') :
    targetExists w'.state uid kind = targetExists w.state uid kind := by
  refine targetExists_congr (World.topology_step hStep) (fun u => ?_) uid kind
  rcases World.step_cases hStep with ⟨cmd, -, -, hState⟩ | ⟨-, hState⟩ | ⟨-, -, t, hOcc, hState⟩
  · rw [hState, isSome_findBlockSection_applyAll]
  · rw [hState, isSome_findBlockSection_applyAll]
  · rcases hState with hState | hState <;>
      simp only [EngineState.findBlockSection, hState, EngineState.setCurrentTick,
        blockSections_of_onlyOccupancy hOcc]

theorem targetExists_attempt (w : World φ) (a : Action φ) :
    targetExists (w.attempt dynamics a).state uid kind = targetExists w.state uid kind := by
  unfold World.attempt
  cases hStep : w.step dynamics a with
  | none => rfl
  | some w' => exact targetExists_step hStep

theorem targetExists_attempts (w : World φ) (actions : List (Action φ)) :
    targetExists (w.attempts dynamics actions).state uid kind = targetExists w.state uid kind := by
  induction actions generalizing w with
  | nil => rfl
  | cons a actions ih => exact (ih _).trans (targetExists_attempt w a)

/-- On an existing target the codes that matter for a pending command are all accepted. -/
theorem isSome_step_of_codeOn {w : World φ} (hTarget : targetExists w.state uid kind = true) {a : Action φ}
    {code : OperatorCommandCode} (hCode : codeOn uid kind a = some code) (hFree : isCheckedCode code = false) :
    (w.step dynamics a).isSome = true := by
  unfold codeOn at hCode
  split at hCode
  · rename_i cmd
    obtain ⟨targetUid, targetKind, c⟩ := cmd
    split at hCode
    · rename_i hOn
      obtain ⟨rfl, rfl⟩ := hOn
      cases hCode
      have hCheck := (checkOperatorCommand_eq_none hFree).mpr hTarget
      simp only [World.step, ControlSystem.checkCommand, hCheck, Option.isSome_some]
    · cases hCode
  · cases hCode

theorem foldl_acceptedCodes {init : OperatorCommandCode} (hInit : ∃ c, initialisingCode c = some init)
    {w : World φ} (hTarget : targetExists w.state uid kind = true) (actions : List (Action φ)) (pending : Bool) :
    (acceptedCodes dynamics uid kind w actions).foldl (pendingStep init) pending =
      (actions.filterMap (codeOn uid kind)).foldl (pendingStep init) pending := by
  induction actions generalizing w pending with
  | nil => rfl
  | cons a actions ih =>
    have hNext : targetExists (w.attempt dynamics a).state uid kind = true :=
      (targetExists_attempt w a).trans hTarget
    rw [acceptedCodes, List.foldl_append, ih hNext]
    cases hCode : codeOn uid kind a with
    | none =>
      rw [List.filterMap_cons_none hCode]
      split <;> rfl
    | some code =>
      rw [List.filterMap_cons_some hCode, List.foldl_cons]
      congr 1
      cases hChecked : isCheckedCode code with
      | true =>
        rw [pendingStep_of_isCheckedCode hInit hChecked]
        split
        · exact pendingStep_of_isCheckedCode hInit hChecked pending
        · rfl
      | false =>
        rw [if_pos (isSome_step_of_codeOn hTarget hCode hChecked)]
        rfl

end Runs

/-- From any world, a target takes its commands in two steps exactly when it does not exist or they are sent to
it in two steps. -/
theorem takesTwoSteps_iff {φ : Type} (dynamics : TrainDynamics φ) (uid : UID) (kind : OperatorTargetKind)
    (w : World φ) (actions : List (Action φ)) : TakesTwoSteps dynamics uid kind w actions ↔
      targetExists w.state uid kind = false ∨ SentInTwoSteps uid kind actions := by
  constructor
  · intro h
    cases hTarget : targetExists w.state uid kind with
    | false => exact Or.inl rfl
    | true =>
      refine Or.inr fun before code init after hSplit hInit => ?_
      have hCheck : checkOperatorCommand (w.attempts dynamics before).state ⟨uid, kind, code⟩ = none := by
        rw [checkOperatorCommand_eq_none (isCheckedCode_of_initialisingCode hInit), targetExists_attempts]
        exact hTarget
      have hPending := h before code init after hSplit hInit hCheck
      rwa [pendingAfter, foldl_acceptedCodes ⟨code, hInit⟩ hTarget] at hPending
  · intro h before code init after hSplit hInit hCheck
    have hTarget : targetExists w.state uid kind = true := by
      rw [← targetExists_attempts w before]
      exact (checkOperatorCommand_eq_none (isCheckedCode_of_initialisingCode hInit)).mp hCheck
    rcases h with hNone | hSent
    · rw [hTarget] at hNone
      cases hNone
    · rw [pendingAfter, foldl_acceptedCodes ⟨code, hInit⟩ hTarget]
      exact hSent before code init after hSplit hInit

/-- The substitute signal is executed though nobody has initialised it. -/
theorem substituteSignal_atOnce : ¬ ∀ (w : World Unit) (uid : UID) (kind : OperatorTargetKind)
    (actions : List (Action Unit)), w.Loaded → TakesTwoSteps World.idleTrains uid kind w actions := by
  intro h
  have hAccepted : ((World.start .ml8 forkStation).control.checkCommand (loadedState forkStation)
      (.operatorCommand ⟨⟨21⟩, .signal, .szw⟩)).isNone = true := by decide +kernel
  have hPending := h (World.start .ml8 forkStation) ⟨21⟩ .signal [.command (.operatorCommand ⟨⟨21⟩, .signal, .szw⟩)]
    ⟨[forkStation], _, rfl⟩ [] .szw .szi [] rfl rfl (Option.isNone_iff_eq_none.mp hAccepted)
  cases hPending

end Symulator.Interlocking
