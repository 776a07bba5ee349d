import Symulator.Server.ExchangeTrace

/-! # One exchange, one train

An exchange is to be about the train of its opening telegram, and in the variant it was opened in. The manager
compares neither: it stores the number of the last telegram that moved the exchange.
-/

namespace Symulator.Server

open Symulator.Library

set_option autoImplicit false

/-- The manager beside the opening telegram, its form and train number, of each exchange in progress. -/
structure OpenedExchanges where
  manager : DispatchExchangeManager := {}
  opening : AreaPair → Option (DispatchFormType × String) := fun _ => none

/-- An S26 or S35 ends the exchange. -/
def openingAfter (held : Option (DispatchFormType × String)) (form : DispatchFormType) (trainNumber : String) :
    Option (DispatchFormType × String) :=
  if isOpening form then some (form, trainNumber) else if form = .s26 ∨ form = .s35 then none else held

def InProgress (status : ExchangeStatus) : Prop :=
  status = .s2Sent ∨ status = .s24Received ∨ status = .s25Sent

namespace OpenedExchanges

def step (w : OpenedExchanges) : ExchangeCall → Option OpenedExchanges
  | .submit srcArea dstArea form direction trainNumber =>
    let submitted := w.manager.submitTelegram srcArea dstArea form direction trainNumber
    let pair := (srcArea, dstArea)
    some {
      manager := submitted.2
      opening :=
        if submitted.1.result = .accepted then
          Function.update w.opening pair (openingAfter (w.opening pair) form trainNumber)
        else w.opening }
  | .close srcArea dstArea => some { w with manager := w.manager.close srcArea dstArea }

/-- A telegram accepted in an exchange in progress carries the train number of the opening, and a grant is of the
opening's variant. -/
def KeepsTrain (w : OpenedExchanges) (call : ExchangeCall) (_ : OpenedExchanges) : Prop :=
  match call with
  | .submit srcArea dstArea form direction trainNumber =>
    (w.manager.submitTelegram srcArea dstArea form direction trainNumber).1.result = .accepted →
      ∀ openingForm openingTrain, w.opening (srcArea, dstArea) = some (openingForm, openingTrain) →
        trainNumber = openingTrain ∧ (form = .s24 → openingForm = .s2) ∧ (form = .s56 → openingForm = .s55)
  | .close _ _ => True

/-- A telegram that the status of a pair in progress lets through carries the train number stored for the pair,
and is no S24 after an S55 nor an S56 after an S2. -/
def TrainGuard (w : OpenedExchanges) : ExchangeCall → Prop
  | .submit srcArea dstArea form direction trainNumber =>
    let ex := w.manager.exchange (srcArea, dstArea)
    InProgress ex.status → (verdict ex.status form direction).accepts = true →
      trainNumber = ex.trainNumber ∧
      (form = .s24 → (w.opening (srcArea, dstArea)).map Prod.fst = some .s2) ∧
      (form = .s56 → (w.opening (srcArea, dstArea)).map Prod.fst = some .s55)
  | .close _ _ => True

/-- An exchange in progress has an opening telegram, and stores its train number. -/
def OpeningAgrees (ex : ExchangeState) (opening : Option (DispatchFormType × String)) : Prop :=
  (InProgress ex.status ∧ opening.map Prod.snd = some ex.trainNumber) ∨ ¬ InProgress ex.status ∧ opening = none

def Agrees (w : OpenedExchanges) : Prop := ∀ pair, OpeningAgrees (w.manager.exchange pair) (w.opening pair)

theorem keepsTrain_iff {w w' : OpenedExchanges} {call : ExchangeCall} (h : w.Agrees) :
    w.KeepsTrain call w' ↔ w.TrainGuard call := by
  cases call with
  | close srcArea dstArea => exact Iff.rfl
  | submit srcArea dstArea form direction trainNumber =>
    simp only [KeepsTrain, TrainGuard, DispatchExchangeManager.result_submitTelegram]
    rcases h (srcArea, dstArea) with ⟨hProgress, hTrain⟩ | ⟨hOver, hNone⟩
    · obtain ⟨⟨openingForm, openingTrain⟩, hOpening, hTrain⟩ := Option.map_eq_some_iff.mp hTrain
      simp only at hTrain
      subst hTrain
      simp only [hOpening, hProgress, forall_const, Option.map_some, Option.some.injEq, Prod.mk.injEq]
      constructor
      · intro hKeeps hAccepts
        exact hKeeps hAccepts openingForm _ ⟨rfl, rfl⟩
      · rintro hGuard hAccepts _ _ ⟨rfl, rfl⟩
        exact hGuard hAccepts
    · simp [hNone, hOver]

theorem openingAgrees_telegram {m : DispatchExchangeManager} {ex : ExchangeState}
    {opening : Option (DispatchFormType × String)} {form : DispatchFormType} {direction : TelegramDirection}
    {trainNumber : String} (h : OpeningAgrees ex opening)
    (hTrain : InProgress ex.status → (verdict ex.status form direction).accepts = true →
      trainNumber = ex.trainNumber) :
    OpeningAgrees (m.exchangeAfter trainNumber ex (verdict ex.status form direction))
      (if (verdict ex.status form direction).accepts = true then openingAfter opening form trainNumber
        else opening) := by
  rcases @verdict_cases ex.status form direction with ⟨hForm, -, hVerdict⟩ | ⟨hForm, hStatus, hVerdict⟩ |
    ⟨rfl, hStatus, hVerdict⟩ | ⟨rfl, hStatus, hVerdict⟩ | ⟨rfl, hStatus, hVerdict⟩ | ⟨hForm, hVerdict⟩ |
    ⟨_, _, hVerdict⟩
  · rw [hVerdict, openingAfter, if_pos hForm]
    exact Or.inl ⟨Or.inl rfl, rfl⟩
  · have hProgress : InProgress ex.status := Or.inl hStatus
    have hOpening : openingAfter opening form trainNumber = opening := by
      cases form <;> first | rfl | cases hForm
    have hNumber := hTrain hProgress (by rw [hVerdict]; rfl)
    rw [hVerdict, hOpening]
    rcases h with ⟨-, hStored⟩ | ⟨hOver, -⟩
    · exact Or.inl ⟨Or.inr (Or.inl rfl), hNumber ▸ hStored⟩
    · exact absurd hProgress hOver
  · have hProgress : InProgress ex.status := Or.inr (Or.inl hStatus)
    have hNumber := hTrain hProgress (by rw [hVerdict]; rfl)
    rw [hVerdict]
    rcases h with ⟨-, hStored⟩ | ⟨hOver, -⟩
    · exact Or.inl ⟨Or.inr (Or.inr rfl), hNumber ▸ hStored⟩
    · exact absurd hProgress hOver
  · rw [hVerdict]
    exact Or.inr ⟨by simp [DispatchExchangeManager.exchangeAfter, InProgress], rfl⟩
  · rw [hVerdict]
    exact Or.inr ⟨by simp [DispatchExchangeManager.exchangeAfter, InProgress], rfl⟩
  · have hOpening : openingAfter opening form trainNumber = opening := by
      cases form <;> first | rfl | cases hForm
    rw [hVerdict, hOpening]
    exact h
  · rw [hVerdict]
    exact h

theorem agrees_step {w w' : OpenedExchanges} {call : ExchangeCall} (h : w.Agrees) (hGuard : w.TrainGuard call)
    (hStep : w.step call = some w') : w'.Agrees := by
  cases call with
  | close srcArea dstArea =>
    cases hStep
    intro pair
    dsimp only
    rw [DispatchExchangeManager.exchange_close]
    split
    · rename_i hClosed
      have hPair := h pair
      rw [OpeningAgrees, hClosed.2] at hPair
      rcases hPair with ⟨hProgress, -⟩ | ⟨-, hNone⟩
      · simp [InProgress] at hProgress
      · exact Or.inr ⟨by simp [InProgress], hNone⟩
    · exact h pair
  | submit srcArea dstArea form direction trainNumber =>
    cases hStep
    intro pair
    dsimp only
    rw [DispatchExchangeManager.exchange_submitTelegram]
    simp only [DispatchExchangeManager.result_submitTelegram]
    split
    · rename_i hPair
      subst hPair
      have hTrain := @openingAgrees_telegram w.manager _ _ form direction trainNumber (h (srcArea, dstArea))
        (fun hProgress hAccepts => (hGuard hProgress hAccepts).1)
      split
      · rename_i hAccepts
        rw [if_pos hAccepts] at hTrain
        rw [Function.update_self]
        exact hTrain
      · rename_i hAccepts
        rwa [if_neg hAccepts] at hTrain
    · rename_i hPair
      split
      · rw [Function.update_of_ne hPair]
        exact h pair
      · exact h pair

theorem agrees_start : Agrees {} := fun _ => Or.inr ⟨by simp [InProgress, DispatchExchangeManager.exchange], rfl⟩

/-- All telegrams of a run keep the train and the variant of their exchange exactly when no telegram that is let
through names another train than the one stored, and no grant is of the other variant. -/
theorem keepsTrain_iff_guarded (calls : List ExchangeCall) :
    EachStep step KeepsTrain {} calls ↔ Guarded step TrainGuard {} calls := by
  obtain ⟨w, hRun⟩ := @exists_run _ _ step (fun w call => by cases call <;> rfl) {} calls
  exact eachStep_iff_guarded_within KeepsTrain Agrees (fun _ _ => True) TrainGuard
    (fun w call w' h _ _ => keepsTrain_iff h) (fun w call w' h _ hGuard hStep => agrees_step h hGuard hStep)
    agrees_start (guarded_of_forall_mem (fun _ _ _ => trivial) _) hRun

/-- The grant of another train is taken for that of the train asked for. -/
theorem grant_ofOtherTrain : ¬ ∀ calls, EachStep step KeepsTrain {} calls := by
  intro h
  have hKeeps := h [.submit "1" "2" .s2 .sent "100", .submit "1" "2" .s24 .received "200"]
  obtain ⟨hTrain, -⟩ := (hKeeps _ rfl).2 _ rfl
  have hNumbers := (hTrain rfl .s2 "100" rfl).1
  exact absurd hNumbers (by decide)

end OpenedExchanges

end Symulator.Server
