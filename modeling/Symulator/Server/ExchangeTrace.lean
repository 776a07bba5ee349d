import Symulator.Library.Runs
import Symulator.Library.WordTrace
import Symulator.Server.DispatchExchangeManager

/-! # Traces of dispatch exchanges

What each pair of areas says to the manager is made of whole exchanges: a request that is cancelled, or a
request, a grant, a departure, an arrival and the close. The pairs do not disturb each other, refused telegrams
leave no trace, and the identifiers tell the exchanges apart.
-/

namespace Symulator.Server

open Symulator.Library Computability

set_option autoImplicit false

inductive ExchangeCall
  | submit (srcArea dstArea : String) (form : DispatchFormType) (direction : TelegramDirection)
      (trainNumber : String)
  | close (srcArea dstArea : String)

inductive ExchangeMark
  | telegram (form : DispatchFormType)
  | closed
deriving DecidableEq

/-- A request that is cancelled, or one that is granted, followed by the departure, the arrival and the
close. -/
def exchangeWord : Language ExchangeMark :=
  {w | ∃ request, isOpening request = true ∧ (w = [.telegram request, .telegram .s35] ∨
    ∃ grant, isGrant grant = true ∧
      w = [.telegram request, .telegram grant, .telegram .s25, .telegram .s26, .closed])}

namespace DispatchExchangeManager

def perform (m : DispatchExchangeManager) : ExchangeCall → DispatchExchangeManager
  | .submit srcArea dstArea form direction trainNumber =>
    (m.submitTelegram srcArea dstArea form direction trainNumber).2
  | .close srcArea dstArea => m.close srcArea dstArea

def performAll (m : DispatchExchangeManager) (calls : List ExchangeCall) : DispatchExchangeManager :=
  calls.foldl perform m

/-- What a call adds to the trace of a pair: an accepted telegram of the procedure, or a close that has an
effect. -/
def marks (pair : AreaPair) (m : DispatchExchangeManager) : ExchangeCall → List ExchangeMark
  | .submit srcArea dstArea form direction trainNumber =>
    if (srcArea, dstArea) = pair ∧ isSupplementary form = false ∧
        (m.submitTelegram srcArea dstArea form direction trainNumber).1.result = .accepted then
      [.telegram form]
    else []
  | .close srcArea dstArea =>
    if (srcArea, dstArea) = pair ∧ (m.close srcArea dstArea).status srcArea dstArea ≠ m.status srcArea dstArea then
      [.closed]
    else []

def trace (pair : AreaPair) : DispatchExchangeManager → List ExchangeCall → List ExchangeMark
  | _, [] => []
  | m, call :: calls => marks pair m call ++ trace pair (m.perform call) calls

/-- The identifiers answered to the openings a run has accepted. -/
def openedIds : DispatchExchangeManager → List ExchangeCall → List String
  | _, [] => []
  | m, call :: calls =>
    (match call with
      | .submit srcArea dstArea form direction trainNumber =>
        let (outcome, _) := m.submitTelegram srcArea dstArea form direction trainNumber
        if isOpening form = true ∧ outcome.result = .accepted then [outcome.exchangeId] else []
      | .close _ _ => []) ++ openedIds (m.perform call) calls

end DispatchExchangeManager

/-! ## The words begun in each status -/

def begun : ExchangeStatus → Language ExchangeMark
  | .idle | .closed | .cancelled => {[]}
  | .s2Sent => {w | ∃ request, isOpening request = true ∧ w = [.telegram request]}
  | .s24Received => {w | ∃ request grant, isOpening request = true ∧ isGrant grant = true ∧
      w = [.telegram request, .telegram grant]}
  | .s25Sent => {w | ∃ request grant, isOpening request = true ∧ isGrant grant = true ∧
      w = [.telegram request, .telegram grant, .telegram .s25]}
  | .s26Received => {w | ∃ request grant, isOpening request = true ∧ isGrant grant = true ∧
      w = [.telegram request, .telegram grant, .telegram .s25, .telegram .s26]}

theorem prefix_of_begun {status : ExchangeStatus} {part : List ExchangeMark} (h : part ∈ begun status)
    (hPart : part ≠ []) : ∃ w ∈ exchangeWord, part <+: w := by
  cases status with
  | idle | closed | cancelled => exact absurd h hPart
  | s2Sent =>
    obtain ⟨request, hRequest, rfl⟩ := h
    exact ⟨_, ⟨request, hRequest, Or.inl rfl⟩, [.telegram .s35], rfl⟩
  | s24Received =>
    obtain ⟨request, grant, hRequest, hGrant, rfl⟩ := h
    exact ⟨_, ⟨request, hRequest, Or.inr ⟨grant, hGrant, rfl⟩⟩, [.telegram .s25, .telegram .s26, .closed], rfl⟩
  | s25Sent =>
    obtain ⟨request, grant, hRequest, hGrant, rfl⟩ := h
    exact ⟨_, ⟨request, hRequest, Or.inr ⟨grant, hGrant, rfl⟩⟩, [.telegram .s26, .closed], rfl⟩
  | s26Received =>
    obtain ⟨request, grant, hRequest, hGrant, rfl⟩ := h
    exact ⟨_, ⟨request, hRequest, Or.inr ⟨grant, hGrant, rfl⟩⟩, [.closed], rfl⟩

/-- An accepted telegram of the procedure carries the word of its pair on, or completes it. -/
theorem carriesOn_of_verdict {status next : ExchangeStatus} {form : DispatchFormType} {direction : TelegramDirection}
    (h : verdict status form direction = .opens ∧ next = .s2Sent ∨
      verdict status form direction = .moves next) :
    CarriesOn exchangeWord begun status (.telegram form) next := by
  rcases @verdict_cases status form direction with ⟨hForm, hStatus, hVerdict⟩ | ⟨hForm, rfl, hVerdict⟩ |
    ⟨rfl, rfl, hVerdict⟩ | ⟨rfl, rfl, hVerdict⟩ | ⟨rfl, rfl, hVerdict⟩ | ⟨_, hVerdict⟩ | ⟨_, _, hVerdict⟩
  · have hNext : next = .s2Sent := by simpa [hVerdict] using h
    subst hNext
    intro part hPart
    have hEmpty : part = [] := by rcases hStatus with rfl | rfl | rfl <;> exact hPart
    subst hEmpty
    exact Or.inl ⟨form, hForm, rfl⟩
  · have hNext : next = .s24Received := by simpa [hVerdict, eq_comm] using h
    subst hNext
    rintro part ⟨request, hRequest, rfl⟩
    exact Or.inl ⟨request, form, hRequest, hForm, rfl⟩
  · have hNext : next = .s25Sent := by simpa [hVerdict, eq_comm] using h
    subst hNext
    rintro part ⟨request, grant, hRequest, hGrant, rfl⟩
    exact Or.inl ⟨request, grant, hRequest, hGrant, rfl⟩
  · have hNext : next = .s26Received := by simpa [hVerdict, eq_comm] using h
    subst hNext
    rintro part ⟨request, grant, hRequest, hGrant, rfl⟩
    exact Or.inl ⟨request, grant, hRequest, hGrant, rfl⟩
  · have hNext : next = .cancelled := by simpa [hVerdict, eq_comm] using h
    subst hNext
    rintro part ⟨request, hRequest, rfl⟩
    exact Or.inr ⟨⟨request, hRequest, Or.inl rfl⟩, rfl⟩
  · simp [hVerdict] at h
  · simp [hVerdict] at h

theorem carriesOn_closed : CarriesOn exchangeWord begun .s26Received .closed .closed := by
  rintro part ⟨request, grant, hRequest, hGrant, rfl⟩
  exact Or.inr ⟨⟨request, hRequest, Or.inr ⟨grant, hGrant, rfl⟩⟩, rfl⟩

namespace DispatchExchangeManager

variable (m : DispatchExchangeManager) (pair : AreaPair)

theorem marks_submit_of_ne {srcArea dstArea : String} (h : (srcArea, dstArea) ≠ pair) (form : DispatchFormType)
    (direction : TelegramDirection) (trainNumber : String) :
    marks pair m (.submit srcArea dstArea form direction trainNumber) = [] :=
  if_neg fun hMark => h hMark.1

/-- A telegram of the pair itself: an opening or a grant marks it, a note and a refusal do not. -/
theorem marks_cases_submit (srcArea dstArea : String) (form : DispatchFormType) (direction : TelegramDirection)
    (trainNumber : String) :
    (marks (srcArea, dstArea) m (.submit srcArea dstArea form direction trainNumber) = [] ∧
      ((m.perform (.submit srcArea dstArea form direction trainNumber)).exchange (srcArea, dstArea)).status =
        (m.exchange (srcArea, dstArea)).status) ∨
      ∃ mark, marks (srcArea, dstArea) m (.submit srcArea dstArea form direction trainNumber) = [mark] ∧
        CarriesOn exchangeWord begun (m.exchange (srcArea, dstArea)).status mark
          ((m.perform (.submit srcArea dstArea form direction trainNumber)).exchange (srcArea, dstArea)).status := by
  have hExchange := exchange_submitTelegram m srcArea dstArea form direction trainNumber (srcArea, dstArea)
  rw [if_pos rfl] at hExchange
  have hMarks : marks (srcArea, dstArea) m (.submit srcArea dstArea form direction trainNumber) =
      if isSupplementary form = false ∧
          (verdict (m.exchange (srcArea, dstArea)).status form direction).accepts = true then
        [.telegram form]
      else [] := by
    simp only [marks, true_and, result_submitTelegram]
  have hNoted := @isSupplementary_iff_noted (m.exchange (srcArea, dstArea)).status form direction
  rw [hMarks, perform, hExchange]
  cases hVerdict : verdict (m.exchange (srcArea, dstArea)).status form direction with
  | opens =>
    right
    have hForm : isSupplementary form = false := by simpa [hVerdict, Verdict.accepts] using hNoted
    exact ⟨.telegram form, if_pos ⟨hForm, rfl⟩, carriesOn_of_verdict (Or.inl ⟨hVerdict, rfl⟩)⟩
  | moves status =>
    right
    have hForm : isSupplementary form = false := by simpa [hVerdict, Verdict.accepts] using hNoted
    exact ⟨.telegram form, if_pos ⟨hForm, rfl⟩, carriesOn_of_verdict (Or.inr hVerdict)⟩
  | noted =>
    left
    have hForm : isSupplementary form = true := by simpa [hVerdict, Verdict.accepts] using hNoted
    exact ⟨if_neg (by simp [hForm]), rfl⟩
  | refused reason hReason =>
    left
    exact ⟨if_neg (by simp [Verdict.accepts]), rfl⟩

/-- A call leaves the pair in its status and adds no mark, or adds one that carries its word on. -/
theorem marks_cases (call : ExchangeCall) :
    (marks pair m call = [] ∧ ((m.perform call).exchange pair).status = (m.exchange pair).status) ∨
      ∃ mark, marks pair m call = [mark] ∧
        CarriesOn exchangeWord begun (m.exchange pair).status mark ((m.perform call).exchange pair).status := by
  cases call with
  | submit srcArea dstArea form direction trainNumber =>
    by_cases hPair : (srcArea, dstArea) = pair
    · subst hPair
      exact marks_cases_submit m srcArea dstArea form direction trainNumber
    · have hExchange := exchange_submitTelegram m srcArea dstArea form direction trainNumber pair
      rw [if_neg (Ne.symm hPair)] at hExchange
      exact Or.inl ⟨marks_submit_of_ne m pair hPair form direction trainNumber, by rw [perform, hExchange]⟩
  | close srcArea dstArea =>
    have hExchange := exchange_close m srcArea dstArea pair
    by_cases hPair : (srcArea, dstArea) = pair
    · subst hPair
      simp only [perform, marks, true_and, status_eq]
      by_cases hStatus : (m.exchange (srcArea, dstArea)).status = .s26Received
      · rw [if_pos ⟨rfl, hStatus⟩] at hExchange
        right
        rw [hExchange, hStatus]
        exact ⟨.closed, by simp, carriesOn_closed⟩
      · rw [if_neg fun h => hStatus h.2] at hExchange
        left
        rw [hExchange]
        exact ⟨by simp, rfl⟩
    · rw [if_neg fun h => hPair h.1.symm] at hExchange
      exact Or.inl ⟨if_neg fun h => hPair h.1, by rw [perform, hExchange]⟩

theorem trace_mem (calls : List ExchangeCall) {said : List ExchangeMark}
    (h : said ∈ exchangeWord∗ * begun (m.exchange pair).status) :
    said ++ trace pair m calls ∈ exchangeWord∗ * begun ((m.performAll calls).exchange pair).status := by
  induction calls generalizing m said with
  | nil => rwa [trace, List.append_nil]
  | cons call calls ih =>
    rw [trace, ← List.append_assoc]
    refine ih (m.perform call) ?_
    rcases marks_cases m pair call with ⟨hMarks, hStatus⟩ | ⟨mark, hMarks, hCarries⟩
    · rw [hMarks, List.append_nil, hStatus]
      exact h
    · rw [hMarks]
      exact mem_kstar_mul_concat h hCarries

theorem nil_mem_start : [] ∈ exchangeWord∗ * begun ((({} : DispatchExchangeManager).exchange pair).status) :=
  Language.append_mem_mul (Language.nil_mem_kstar _) (show [] ∈ begun .idle from rfl)

/-! ## Identifiers -/

theorem exchangeIdOf_inj {id id' : UInt64} (h : exchangeIdOf id = exchangeIdOf id') : id = id' := by
  have hPadded : zeroPadded 7 id.toNat = zeroPadded 7 id'.toNat := by
    have hList := congrArg String.toList h
    rw [exchangeIdOf, exchangeIdOf, String.toList_append, String.toList_append] at hList
    exact String.toList_inj.mp (List.append_cancel_left hList)
  exact UInt64.toNat_inj.mp (zeroPadded_inj hPadded)

theorem openedIds_eq (calls : List ExchangeCall) :
    ∃ n, openedIds m calls = (List.range n).map fun i => exchangeIdOf (m.nextId + UInt64.ofNat i) := by
  induction calls generalizing m with
  | nil => exact ⟨0, rfl⟩
  | cons call calls ih =>
    obtain ⟨n, hRest⟩ := ih (m.perform call)
    cases call with
    | close srcArea dstArea =>
      refine ⟨n, ?_⟩
      rw [openedIds, hRest, perform, nextId_close]
      rfl
    | submit srcArea dstArea form direction trainNumber =>
      have hNext := nextId_submitTelegram m srcArea dstArea form direction trainNumber
      rw [perform] at hRest
      have hHead : openedIds m (.submit srcArea dstArea form direction trainNumber :: calls) =
          (if verdict (m.exchange (srcArea, dstArea)).status form direction = .opens then
            [(m.submitTelegram srcArea dstArea form direction trainNumber).1.exchangeId] else []) ++
          openedIds (m.submitTelegram srcArea dstArea form direction trainNumber).2 calls := by
        rw [openedIds]
        simp only [result_submitTelegram, isOpening_iff_opens]
        rfl
      rw [hHead, hRest, hNext]
      by_cases hOpens : verdict (m.exchange (srcArea, dstArea)).status form direction = .opens
      · refine ⟨n + 1, ?_⟩
        rw [if_pos hOpens, if_pos hOpens, exchangeId_submitTelegram m srcArea dstArea form direction trainNumber hOpens]
        rw [List.range_succ_eq_map, List.map_cons, List.map_map, List.singleton_append]
        congr 1
        · rw [show UInt64.ofNat 0 = 0 from rfl, UInt64.add_zero]
        · refine List.map_congr_left fun i _ => ?_
          rw [Function.comp_apply, Nat.succ_eq_add_one, UInt64.ofNat_add, UInt64.add_assoc,
            UInt64.add_comm 1, show UInt64.ofNat 1 = 1 from rfl]
      · exact ⟨n, by rw [if_neg hOpens, if_neg hOpens, List.nil_append]⟩

theorem openedIds_nodup {calls : List ExchangeCall} (hCount : (openedIds m calls).length < 2 ^ 64) :
    (openedIds m calls).Nodup := by
  obtain ⟨n, hIds⟩ := openedIds_eq m calls
  rw [hIds, List.length_map, List.length_range] at hCount
  rw [hIds]
  refine List.Nodup.map_on ?_ List.nodup_range
  intro i hi j hj hEq
  have hSame : UInt64.ofNat i = UInt64.ofNat j := UInt64.add_right_inj m.nextId |>.mp (exchangeIdOf_inj hEq)
  have hi : i < 2 ^ 64 := (List.mem_range.mp hi).trans hCount
  have hj : j < 2 ^ 64 := (List.mem_range.mp hj).trans hCount
  rw [← UInt64.toNat_ofNat_of_lt' hi, ← UInt64.toNat_ofNat_of_lt' hj, hSame]

/-- A telegram that is refused changes no pair, and one that is accepted no other pair. -/
theorem exchange_of_other (srcArea dstArea : String) (form : DispatchFormType) (direction : TelegramDirection)
    (trainNumber : String)
    (h : (m.submitTelegram srcArea dstArea form direction trainNumber).1.result = .accepted →
      pair ≠ (srcArea, dstArea)) :
    (m.submitTelegram srcArea dstArea form direction trainNumber).2.exchange pair = m.exchange pair := by
  rw [exchange_submitTelegram]
  split
  · rename_i hPair
    subst hPair
    have hRefused := fun hAccepted => h hAccepted rfl
    rw [result_submitTelegram] at hRefused
    cases hVerdict : verdict (m.exchange (srcArea, dstArea)).status form direction with
    | refused reason hReason => rfl
    | opens | moves status | noted =>
      rw [hVerdict] at hRefused
      exact absurd rfl hRefused
  · rfl

/-- The protocol of exchanges: each pair says whole exchanges one after the other, a refused telegram changes
no pair, an accepted one no other pair, and no two exchanges have one identifier. -/
theorem exchange_protocol (calls : List ExchangeCall) :
    (∀ pair, ∃ w ∈ exchangeWord∗, trace pair {} calls <+: w) ∧
    (∀ (m : DispatchExchangeManager) srcArea dstArea form direction trainNumber pair,
      ((m.submitTelegram srcArea dstArea form direction trainNumber).1.result ≠ .accepted →
        (m.submitTelegram srcArea dstArea form direction trainNumber).2.exchange pair = m.exchange pair) ∧
      ((m.submitTelegram srcArea dstArea form direction trainNumber).1.result = .accepted →
        pair ≠ (srcArea, dstArea) →
          (m.submitTelegram srcArea dstArea form direction trainNumber).2.exchange pair = m.exchange pair)) ∧
    ((openedIds {} calls).length < 2 ^ 64 → (openedIds {} calls).Nodup) := by
  refine ⟨fun pair => ?_, ?_, openedIds_nodup {}⟩
  · have hTrace := trace_mem {} pair calls (nil_mem_start pair)
    exact prefix_of_mem_kstar_mul hTrace fun part hPart hSome => prefix_of_begun hPart hSome
  · intro m srcArea dstArea form direction trainNumber pair
    constructor
    · intro hRefused
      exact exchange_of_other m pair _ _ _ _ _ fun hAccepted => absurd hAccepted hRefused
    · intro _ hPair
      exact exchange_of_other m pair _ _ _ _ _ fun _ => hPair

end DispatchExchangeManager

end Symulator.Server
