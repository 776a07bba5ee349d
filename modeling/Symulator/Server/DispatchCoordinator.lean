import Symulator.Library.Runs
import Symulator.Server.DispatchExchangeManager

/-! # The dispatch coordinator

Each telegram drives its exchange, is written to the database with its fate, and when accepted updates the
train record of a station. No component closes an exchange after its arrival.
-/

namespace Symulator.Server

open Symulator.Library

set_option autoImplicit false

def formTypeStr : DispatchFormType → String
  | .s2 => "S2"
  | .s24 => "S24"
  | .s25 => "S25"
  | .s26 => "S26"
  | .s35 => "S35"
  | .s51 => "S51"
  | .s52 => "S52"
  | .s55 => "S55"
  | .s56 => "S56"
  | .s76 => "S76"

structure TelegramRow where
  formType : String
  exchangeId : String
  trainNumber : String
  fromUid : UInt64 := 0
  toUid : UInt64 := 0
  direction : String
  status : String
  trackNumber : Option String := none
  kmMarkers : List String := []
  body : String := ""
  timestampUs : UInt64 := 0
deriving DecidableEq

/-- What the coordinators hand to the database writer. -/
inductive DbWrite
  | dispatchTelegram (sessionId : String) (row : TelegramRow)
  | edrTrackClearTime (sessionId trainNumber : String) (stationUid timestampUs : UInt64)
  | edrDeparture (sessionId trainNumber : String) (stationUid timestampUs : UInt64)
  | edrArrival (sessionId trainNumber : String) (stationUid timestampUs : UInt64)
deriving DecidableEq

/-- The station a telegram is about: its own when it was sent, the other one when it was received. -/
def EdrCoordinator.onTelegramAccepted (sessionId : String) (form : DispatchFormType) (direction : TelegramDirection)
    (srcArea dstArea trainNumber : String) (timestampUs : UInt64) : Except StoullError (List DbWrite) := do
  let stationUid ← stoull (if direction = .sent then srcArea else dstArea)
  match form with
  | .s25 => return [.edrDeparture sessionId trainNumber stationUid timestampUs]
  | .s26 => return [.edrArrival sessionId trainNumber stationUid timestampUs]
  | _ => return []

structure DispatchCoordinator where
  exchanges : DispatchExchangeManager := {}
  sessionId : String := ""

structure DispatchOutcome where
  exchangeId : String
  newStatus : ExchangeStatus
deriving DecidableEq

structure DispatchForm where
  form : DispatchFormType
  direction : TelegramDirection
  srcArea : String
  dstArea : String
  trainNumber : String
  trackNumber : Option String := none
  kmMarkers : List String := []
  timestampUs : UInt64 := 0

namespace DispatchCoordinator

def telegramRow (f : DispatchForm) (outcome : TelegramOutcome) (fromUid toUid : UInt64) : TelegramRow where
  formType := formTypeStr f.form
  exchangeId := outcome.exchangeId
  trainNumber := f.trainNumber
  fromUid := fromUid
  toUid := toUid
  direction := if f.direction = .sent then "SENT" else "RECEIVED"
  status := if outcome.result ≠ .accepted then "REJECTED_STRICT_POLICY" else "ACCEPTED"
  trackNumber := f.trackNumber
  kmMarkers := f.kmMarkers
  timestampUs := f.timestampUs

def clearTimeWrites (c : DispatchCoordinator) (f : DispatchForm) : Except StoullError (List DbWrite) :=
  if f.form = .s24 ∨ f.form = .s56 then do
    let stationUid ← stoull f.dstArea
    return [.edrTrackClearTime c.sessionId f.trainNumber stationUid f.timestampUs]
  else return []

/-- The coordinator after a form, what it wrote, and its answer. The exchange is driven first: an area that is no
number is found out only after that. -/
def handleDispatchForm (c : DispatchCoordinator) (f : DispatchForm) :
    DispatchCoordinator × Except StoullError (List DbWrite × Option DispatchOutcome) :=
  let submitted := c.exchanges.submitTelegram f.srcArea f.dstArea f.form f.direction f.trainNumber
  let outcome := submitted.1
  ({ c with exchanges := submitted.2 }, do
    let fromUid ← stoull f.srcArea
    let toUid ← stoull f.dstArea
    let written := [.dispatchTelegram c.sessionId (telegramRow f outcome fromUid toUid)]
    if outcome.result ≠ .accepted then
      return (written, none)
    else
      let clearTime ← c.clearTimeWrites f
      let edr ← EdrCoordinator.onTelegramAccepted c.sessionId f.form f.direction f.srcArea f.dstArea f.trainNumber
        f.timestampUs
      return (written ++ clearTime ++ edr, some ⟨outcome.exchangeId, outcome.newStatus⟩))

def handleFreeText (c : DispatchCoordinator) (srcArea dstArea body : String) (timestampUs : UInt64) :
    Except StoullError (List DbWrite) := do
  let fromUid ← stoull srcArea
  let toUid ← stoull dstArea
  return [.dispatchTelegram c.sessionId
    { formType := "FREE_TEXT"
      exchangeId := ""
      trainNumber := ""
      fromUid
      toUid
      direction := "SENT"
      status := "ACCEPTED"
      body
      timestampUs }]

/-- The outcome the coordinator answers with, if it accepts the form. -/
def answer (c : DispatchCoordinator) (f : DispatchForm) : Option DispatchOutcome :=
  match (c.handleDispatchForm f).2 with
  | .ok (_, answer) => answer
  | .error _ => none

theorem handleDispatchForm_exchanges (c : DispatchCoordinator) (f : DispatchForm) :
    (c.handleDispatchForm f).1.exchanges =
      (c.exchanges.submitTelegram f.srcArea f.dstArea f.form f.direction f.trainNumber).2 := rfl

/-- Only forms that the exchange accepts are answered. -/
theorem verdict_of_answer {c : DispatchCoordinator} {f : DispatchForm} (h : (c.answer f).isSome = true) :
    (verdict (c.exchanges.exchange (f.srcArea, f.dstArea)).status f.form f.direction).accepts = true := by
  obtain ⟨outcome, hAnswer⟩ := Option.isSome_iff_exists.mp h
  obtain ⟨written, hAnswer⟩ : ∃ written, (c.handleDispatchForm f).2 = .ok (written, some outcome) := by
    unfold answer at hAnswer
    split at hAnswer
    · rename_i written answered hResult
      exact ⟨written, hAnswer ▸ hResult⟩
    · cases hAnswer
  obtain ⟨fromUid, -, hAnswer⟩ := bind_ok hAnswer
  obtain ⟨toUid, -, hAnswer⟩ := bind_ok hAnswer
  split at hAnswer
  · cases hAnswer
  · rename_i hAccepted
    exact (DispatchExchangeManager.result_submitTelegram _ _ _ _ _ _).mp (not_not.mp hAccepted)

end DispatchCoordinator

/-! ## Exchanges after their arrival -/

def isRequest (f : DispatchForm) : Bool := isOpening f.form ∧ f.direction = .sent

/-- The coordinator beside the pairs whose last exchange has arrived and that have asked for none since. -/
structure ArrivedExchanges where
  coordinator : DispatchCoordinator
  arrived : AreaPair → Bool := fun _ => false

namespace ArrivedExchanges

def step (w : ArrivedExchanges) (f : DispatchForm) : Option ArrivedExchanges :=
  let pair := (f.srcArea, f.dstArea)
  some {
    coordinator := (w.coordinator.handleDispatchForm f).1
    arrived :=
      if isRequest f then Function.update w.arrived pair false
      else if (f.form = .s26 ∧ f.direction = .received) ∧ (w.coordinator.answer f).isSome = true then
        Function.update w.arrived pair true
      else w.arrived }

/-- The first request after an arrival is accepted. -/
def Reopens (w : ArrivedExchanges) (f : DispatchForm) (_ : ArrivedExchanges) : Prop :=
  isRequest f = true → w.arrived (f.srcArea, f.dstArea) = true → (w.coordinator.answer f).isSome = true

def NoNewRequest (w : ArrivedExchanges) (f : DispatchForm) : Prop :=
  isRequest f = true → w.arrived (f.srcArea, f.dstArea) = false

def Stuck (w : ArrivedExchanges) : Prop :=
  ∀ pair, w.arrived pair = true → (w.coordinator.exchanges.exchange pair).status = .s26Received

/-- After the arrival no telegram moves the exchange on. -/
theorem exchangeAfter_arrived (m : DispatchExchangeManager) {ex : ExchangeState} (h : ex.status = .s26Received)
    (form : DispatchFormType) (direction : TelegramDirection) (trainNumber : String) :
    m.exchangeAfter trainNumber ex (verdict ex.status form direction) = ex := by
  rw [h]
  rcases @verdict_cases .s26Received form direction with ⟨-, hStatus, -⟩ | ⟨-, hStatus, -⟩ |
    ⟨-, hStatus, -⟩ | ⟨-, hStatus, -⟩ | ⟨-, hStatus, -⟩ | ⟨-, hVerdict⟩ | ⟨_, _, hVerdict⟩
  · rcases hStatus with hStatus | hStatus | hStatus <;> cases hStatus
  · cases hStatus
  · cases hStatus
  · cases hStatus
  · cases hStatus
  · rw [hVerdict]
    rfl
  · rw [hVerdict]
    rfl

theorem verdict_arrival {status : ExchangeStatus} {direction : TelegramDirection}
    (h : (verdict status .s26 direction).accepts = true) : verdict status .s26 direction = .moves .s26Received := by
  cases direction <;> cases status <;> first | rfl | cases h

theorem request_refused {w : ArrivedExchanges} {f : DispatchForm} (h : w.Stuck) (hRequest : isRequest f = true)
    (hArrived : w.arrived (f.srcArea, f.dstArea) = true) : (w.coordinator.answer f).isSome = false := by
  rw [Bool.eq_false_iff]
  intro hAnswer
  have hAccepts := DispatchCoordinator.verdict_of_answer hAnswer
  have hOpening : isOpening f.form = true := (of_decide_eq_true hRequest).1
  have hOpens := isOpening_iff_opens.mp ⟨hOpening, hAccepts⟩
  rw [h _ hArrived] at hOpens
  rcases @verdict_cases .s26Received f.form f.direction with ⟨-, hStatus, -⟩ | ⟨-, -, hVerdict⟩ |
    ⟨-, -, hVerdict⟩ | ⟨-, -, hVerdict⟩ | ⟨-, -, hVerdict⟩ | ⟨-, hVerdict⟩ | ⟨_, _, hVerdict⟩
  case inl => rcases hStatus with hStatus | hStatus | hStatus <;> cases hStatus
  all_goals cases hVerdict.symm.trans hOpens

theorem reopens_iff {w w' : ArrivedExchanges} {f : DispatchForm} (h : w.Stuck) :
    w.Reopens f w' ↔ w.NoNewRequest f := by
  constructor
  · intro hReopens hRequest
    by_contra hArrived
    rw [Bool.not_eq_false] at hArrived
    have hAnswer := hReopens hRequest hArrived
    rw [request_refused h hRequest hArrived] at hAnswer
    cases hAnswer
  · intro hNone hRequest hArrived
    rw [hNone hRequest] at hArrived
    cases hArrived

theorem stuck_step {w w' : ArrivedExchanges} {f : DispatchForm} (h : w.Stuck) (hStep : w.step f = some w') :
    w'.Stuck := by
  cases hStep
  intro pair hArrived
  dsimp only at hArrived ⊢
  rw [DispatchCoordinator.handleDispatchForm_exchanges, DispatchExchangeManager.exchange_submitTelegram]
  have hKept : w.arrived pair = true → _ := fun hBefore =>
    exchangeAfter_arrived w.coordinator.exchanges (h pair hBefore) f.form f.direction f.trainNumber
  split
  · rename_i hPair
    split at hArrived
    · rw [hPair, Function.update_self] at hArrived
      cases hArrived
    · split at hArrived
      · rename_i hArrival
        obtain ⟨⟨hForm, -⟩, hAnswer⟩ := hArrival
        have hAccepts := DispatchCoordinator.verdict_of_answer hAnswer
        rw [← hPair, hForm] at hAccepts
        rw [hForm, verdict_arrival hAccepts]
        rfl
      · rw [hKept hArrived]
        exact h pair hArrived
  · rename_i hPair
    have hSame : w.arrived pair = true := by
      split at hArrived
      · rwa [Function.update_of_ne hPair] at hArrived
      · split at hArrived
        · rwa [Function.update_of_ne hPair] at hArrived
        · exact hArrived
    exact h pair hSame

/-- Every pair accepts its first request after an arrival exactly when no pair that has arrived ever makes a
request again: after an arrival every request is refused. -/
theorem reopens_iff_guarded (sessionId : String) (forms : List DispatchForm) :
    EachStep step Reopens { coordinator := { sessionId } } forms ↔
      Guarded step NoNewRequest { coordinator := { sessionId } } forms := by
  obtain ⟨w, hRun⟩ := @exists_run _ _ step (fun _ _ => rfl) { coordinator := { sessionId } } forms
  refine eachStep_iff_guarded Reopens Stuck NoNewRequest (fun w f w' h _ => reopens_iff h)
    (fun w f w' h hStep => stuck_step h hStep) ?_ hRun
  intro pair hArrived
  cases hArrived

/-- The second train between two areas is refused. -/
theorem secondTrain_refused : ¬ ∀ sessionId forms, EachStep step Reopens { coordinator := { sessionId } } forms := by
  intro h
  have hReopens := h "" [⟨.s2, .sent, "1", "2", "100", none, [], 0⟩, ⟨.s24, .received, "1", "2", "100", none, [], 0⟩,
    ⟨.s25, .sent, "1", "2", "100", none, [], 0⟩, ⟨.s26, .received, "1", "2", "100", none, [], 0⟩,
    ⟨.s2, .sent, "1", "2", "200", none, [], 0⟩]
  obtain ⟨hSecond, -⟩ := ((((hReopens _ rfl).2 _ rfl).2 _ rfl).2 _ rfl).2 _ rfl
  have hAnswer := hSecond rfl (by decide +kernel)
  exact absurd hAnswer (by decide +kernel)

end ArrivedExchanges

end Symulator.Server
