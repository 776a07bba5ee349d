import Mathlib.Logic.Function.Basic
import Symulator.Server.Text

/-! # Dispatch exchanges

One exchange for each ordered pair of areas, driven by the telegrams of the line-clear procedure. An entry is
made when a pair is first named, and one never named reads as idle.
-/

namespace Symulator.Server

set_option autoImplicit false

inductive DispatchFormType
  | s2 | s24 | s25 | s26 | s35 | s51 | s52 | s55 | s56 | s76
deriving DecidableEq, Repr

inductive TelegramDirection
  | sent | received
deriving DecidableEq, Repr

inductive TelegramStatus
  | pending | confirmed | rejected | superseded
deriving DecidableEq, Repr

inductive ExchangeStatus
  | idle | s2Sent | s24Received | s25Sent | s26Received | closed | cancelled
deriving DecidableEq, Repr

inductive TelegramResult
  | accepted | rejectedWrongState | rejectedDuplicate
deriving DecidableEq, Repr

structure TelegramOutcome where
  result : TelegramResult
  newStatus : ExchangeStatus
  telegramStatus : TelegramStatus
  exchangeId : String
deriving DecidableEq, Repr

structure ExchangeState where
  exchangeId : String := ""
  status : ExchangeStatus := .idle
  trainNumber : String := ""
deriving DecidableEq, Repr

abbrev AreaPair := String × String

structure DispatchExchangeManager where
  exchanges : AreaPair → Option ExchangeState := fun _ => none
  nextId : UInt64 := 1

def toTelegramStatus : TelegramResult → TelegramStatus
  | .accepted => .confirmed
  | .rejectedWrongState | .rejectedDuplicate => .rejected

def exchangeIdOf (id : UInt64) : String := "exch-" ++ zeroPadded 7 id.toNat

namespace DispatchExchangeManager

def generateExchangeId (m : DispatchExchangeManager) : String × DispatchExchangeManager :=
  (exchangeIdOf m.nextId, { m with nextId := m.nextId + 1 })

def store (m : DispatchExchangeManager) (key : AreaPair) (ex : ExchangeState) : DispatchExchangeManager :=
  { m with exchanges := Function.update m.exchanges key (some ex) }

def getOrCreate (m : DispatchExchangeManager) (key : AreaPair) : ExchangeState × DispatchExchangeManager :=
  match m.exchanges key with
  | some ex => (ex, m)
  | none => ({}, m.store key {})

def submitTelegram (m : DispatchExchangeManager) (srcArea dstArea : String) (form : DispatchFormType)
    (direction : TelegramDirection) (trainNumber : String) : TelegramOutcome × DispatchExchangeManager :=
  let key : AreaPair := (srcArea, dstArea)
  let (ex, m) := m.getOrCreate key
  let reject (reason : TelegramResult) : TelegramOutcome × DispatchExchangeManager :=
    (⟨reason, ex.status, toTelegramStatus reason, ""⟩, m)
  let accept (m : DispatchExchangeManager) (exchangeId : String) (newStatus : ExchangeStatus) :
      TelegramOutcome × DispatchExchangeManager :=
    (⟨.accepted, newStatus, .confirmed, exchangeId⟩, m.store key ⟨exchangeId, newStatus, trainNumber⟩)
  match form, direction with
  | .s2, .sent | .s55, .sent =>
    match ex.status with
    | .idle | .closed | .cancelled =>
      let (exchangeId, m) := m.generateExchangeId
      accept m exchangeId .s2Sent
    | .s2Sent => reject .rejectedDuplicate
    | _ => reject .rejectedWrongState
  | .s24, .received | .s56, .received =>
    match ex.status with
    | .s2Sent => accept m ex.exchangeId .s24Received
    | .s24Received => reject .rejectedDuplicate
    | _ => reject .rejectedWrongState
  | .s25, .sent =>
    if ex.status = .s24Received then accept m ex.exchangeId .s25Sent else reject .rejectedWrongState
  | .s26, .received =>
    if ex.status = .s25Sent then accept m ex.exchangeId .s26Received else reject .rejectedWrongState
  | .s35, .sent =>
    if ex.status = .s2Sent then accept m ex.exchangeId .cancelled else reject .rejectedWrongState
  | .s51, _ | .s52, _ =>
    let active := ex.status ≠ .idle ∧ ex.status ≠ .closed ∧ ex.status ≠ .cancelled
    if ¬ active then reject .rejectedWrongState
    else (⟨.accepted, ex.status, .confirmed, ex.exchangeId⟩, m)
  | .s76, _ =>
    let active := ex.status ≠ .closed ∧ ex.status ≠ .cancelled
    if ¬ active ∧ ex.status ≠ .idle then reject .rejectedWrongState
    else (⟨.accepted, ex.status, .confirmed, ex.exchangeId⟩, m)
  | _, _ => reject .rejectedWrongState

def status (m : DispatchExchangeManager) (srcArea dstArea : String) : ExchangeStatus :=
  match m.exchanges (srcArea, dstArea) with
  | none => .idle
  | some ex => ex.status

def close (m : DispatchExchangeManager) (srcArea dstArea : String) : DispatchExchangeManager :=
  match m.exchanges (srcArea, dstArea) with
  | none => m
  | some ex =>
    if ex.status = .s26Received then m.store (srcArea, dstArea) { ex with status := .closed } else m

end DispatchExchangeManager

/-! ## What a telegram does -/

/-- What the status of a pair makes of a telegram: it opens an exchange, moves it on, is noted, or is
refused. -/
inductive Verdict
  | opens
  | moves (status : ExchangeStatus)
  | noted
  | refused (reason : TelegramResult) (hReason : reason ≠ .accepted)
deriving DecidableEq

def Verdict.accepts : Verdict → Bool
  | .refused _ _ => false
  | _ => true

def verdict (status : ExchangeStatus) (form : DispatchFormType) (direction : TelegramDirection) : Verdict :=
  match form, direction with
  | .s2, .sent | .s55, .sent =>
    match status with
    | .idle | .closed | .cancelled => .opens
    | .s2Sent => .refused .rejectedDuplicate (by decide)
    | .s24Received | .s25Sent | .s26Received => .refused .rejectedWrongState (by decide)
  | .s24, .received | .s56, .received =>
    match status with
    | .s2Sent => .moves .s24Received
    | .s24Received => .refused .rejectedDuplicate (by decide)
    | .idle | .s25Sent | .s26Received | .closed | .cancelled => .refused .rejectedWrongState (by decide)
  | .s25, .sent => if status = .s24Received then .moves .s25Sent else .refused .rejectedWrongState (by decide)
  | .s26, .received => if status = .s25Sent then .moves .s26Received else .refused .rejectedWrongState (by decide)
  | .s35, .sent => if status = .s2Sent then .moves .cancelled else .refused .rejectedWrongState (by decide)
  | .s51, _ | .s52, _ =>
    match status with
    | .idle | .closed | .cancelled => .refused .rejectedWrongState (by decide)
    | .s2Sent | .s24Received | .s25Sent | .s26Received => .noted
  | .s76, _ =>
    match status with
    | .closed | .cancelled => .refused .rejectedWrongState (by decide)
    | .idle | .s2Sent | .s24Received | .s25Sent | .s26Received => .noted
  | _, _ => .refused .rejectedWrongState (by decide)

def isOpening : DispatchFormType → Bool
  | .s2 | .s55 => true
  | _ => false

def isGrant : DispatchFormType → Bool
  | .s24 | .s56 => true
  | _ => false

/-- Level-crossing notices and remarks go along with an exchange and are no part of it. -/
def isSupplementary : DispatchFormType → Bool
  | .s51 | .s52 | .s76 => true
  | _ => false

theorem verdict_cases {status : ExchangeStatus} {form : DispatchFormType} {direction : TelegramDirection} :
    (isOpening form = true ∧ (status = .idle ∨ status = .closed ∨ status = .cancelled) ∧
      verdict status form direction = .opens) ∨
    (isGrant form = true ∧ status = .s2Sent ∧ verdict status form direction = .moves .s24Received) ∨
    (form = .s25 ∧ status = .s24Received ∧ verdict status form direction = .moves .s25Sent) ∨
    (form = .s26 ∧ status = .s25Sent ∧ verdict status form direction = .moves .s26Received) ∨
    (form = .s35 ∧ status = .s2Sent ∧ verdict status form direction = .moves .cancelled) ∨
    (isSupplementary form = true ∧ verdict status form direction = .noted) ∨
    ∃ reason hReason, verdict status form direction = .refused reason hReason := by
  cases form <;> cases direction <;> cases status <;> simp [verdict, isOpening, isGrant, isSupplementary]

theorem isSupplementary_iff_noted {status : ExchangeStatus} {form : DispatchFormType}
    {direction : TelegramDirection} (h : (verdict status form direction).accepts = true) :
    isSupplementary form = true ↔ verdict status form direction = .noted := by
  rcases @verdict_cases status form direction with ⟨hForm, -, hVerdict⟩ | ⟨hForm, -, hVerdict⟩ |
    ⟨rfl, -, hVerdict⟩ | ⟨rfl, -, hVerdict⟩ | ⟨rfl, -, hVerdict⟩ | ⟨hForm, hVerdict⟩ | ⟨_, _, hVerdict⟩
  · have hOther : isSupplementary form = false := by cases form <;> first | rfl | cases hForm
    simp [hVerdict, hOther]
  · have hOther : isSupplementary form = false := by cases form <;> first | rfl | cases hForm
    simp [hVerdict, hOther]
  · simp [hVerdict, isSupplementary]
  · simp [hVerdict, isSupplementary]
  · simp [hVerdict, isSupplementary]
  · simp [hVerdict, hForm]
  · rw [hVerdict] at h
    cases h

theorem isOpening_iff_opens {status : ExchangeStatus} {form : DispatchFormType} {direction : TelegramDirection} :
    isOpening form = true ∧ (verdict status form direction).accepts = true ↔
      verdict status form direction = .opens := by
  rcases @verdict_cases status form direction with ⟨hForm, -, hVerdict⟩ | ⟨hForm, -, hVerdict⟩ |
    ⟨rfl, -, hVerdict⟩ | ⟨rfl, -, hVerdict⟩ | ⟨rfl, -, hVerdict⟩ | ⟨hForm, hVerdict⟩ | ⟨_, _, hVerdict⟩
  · simp [hVerdict, hForm, Verdict.accepts]
  · have hOther : isOpening form = false := by cases form <;> first | rfl | cases hForm
    simp [hVerdict, hOther]
  · simp [hVerdict, isOpening]
  · simp [hVerdict, isOpening]
  · simp [hVerdict, isOpening]
  · have hOther : isOpening form = false := by cases form <;> first | rfl | cases hForm
    simp [hVerdict, hOther]
  · simp [hVerdict, Verdict.accepts]

namespace DispatchExchangeManager

/-- The exchange of a pair, whether it has an entry or not. -/
def exchange (m : DispatchExchangeManager) (key : AreaPair) : ExchangeState := (m.exchanges key).getD {}

@[simp] theorem exchange_store (m : DispatchExchangeManager) (key key' : AreaPair) (ex : ExchangeState) :
    (m.store key ex).exchange key' = if key' = key then ex else m.exchange key' := by
  unfold exchange store
  by_cases h : key' = key
  · subst h
    simp
  · simp [h]

@[simp] theorem nextId_store (m : DispatchExchangeManager) (key : AreaPair) (ex : ExchangeState) :
    (m.store key ex).nextId = m.nextId := rfl

theorem status_eq (m : DispatchExchangeManager) (srcArea dstArea : String) :
    m.status srcArea dstArea = (m.exchange (srcArea, dstArea)).status := by
  unfold status exchange
  cases m.exchanges (srcArea, dstArea) <;> rfl

theorem getOrCreate_spec (m : DispatchExchangeManager) (key : AreaPair) :
    (m.getOrCreate key).1 = m.exchange key ∧ (m.getOrCreate key).2.exchange = m.exchange ∧
      (m.getOrCreate key).2.nextId = m.nextId := by
  unfold getOrCreate
  cases hEntry : m.exchanges key with
  | some ex => exact ⟨by simp [exchange, hEntry], rfl, rfl⟩
  | none =>
    refine ⟨by simp [exchange, hEntry], ?_, rfl⟩
    funext key'
    rw [exchange_store]
    split
    · rename_i hKey
      simp [exchange, hKey, hEntry]
    · rfl

/-- What a verdict does to the exchange `ex` of the pair `key`. -/
def enact (m : DispatchExchangeManager) (key : AreaPair) (ex : ExchangeState) (trainNumber : String) :
    Verdict → TelegramOutcome × DispatchExchangeManager
  | .opens =>
    (⟨.accepted, .s2Sent, .confirmed, exchangeIdOf m.nextId⟩,
      { m with nextId := m.nextId + 1 }.store key ⟨exchangeIdOf m.nextId, .s2Sent, trainNumber⟩)
  | .moves status =>
    (⟨.accepted, status, .confirmed, ex.exchangeId⟩, m.store key ⟨ex.exchangeId, status, trainNumber⟩)
  | .noted => (⟨.accepted, ex.status, .confirmed, ex.exchangeId⟩, m)
  | .refused reason _ => (⟨reason, ex.status, toTelegramStatus reason, ""⟩, m)

variable (m : DispatchExchangeManager) (srcArea dstArea : String) (form : DispatchFormType)
  (direction : TelegramDirection) (trainNumber : String)

theorem submitTelegram_eq : m.submitTelegram srcArea dstArea form direction trainNumber =
    (m.getOrCreate (srcArea, dstArea)).2.enact (srcArea, dstArea) (m.exchange (srcArea, dstArea)) trainNumber
      (verdict (m.exchange (srcArea, dstArea)).status form direction) := by
  have hExchange := (getOrCreate_spec m (srcArea, dstArea)).1
  rw [← hExchange, submitTelegram]
  generalize m.getOrCreate (srcArea, dstArea) = made
  obtain ⟨⟨exchangeId, status, heldTrain⟩, m'⟩ := made
  cases form <;> cases direction <;> cases status <;> rfl

/-- The exchange a verdict leaves for the pair. -/
def exchangeAfter (ex : ExchangeState) : Verdict → ExchangeState
  | .opens => ⟨exchangeIdOf m.nextId, .s2Sent, trainNumber⟩
  | .moves status => ⟨ex.exchangeId, status, trainNumber⟩
  | .noted | .refused _ _ => ex

/-- The status a verdict leaves. -/
def statusAfter (status : ExchangeStatus) : Verdict → ExchangeStatus
  | .opens => .s2Sent
  | .moves status => status
  | .noted | .refused _ _ => status

theorem status_exchangeAfter (ex : ExchangeState) (v : Verdict) :
    (m.exchangeAfter trainNumber ex v).status = statusAfter ex.status v := by
  cases v <;> rfl

theorem exchange_submitTelegram (key : AreaPair) :
    (m.submitTelegram srcArea dstArea form direction trainNumber).2.exchange key =
      if key = (srcArea, dstArea) then
        m.exchangeAfter trainNumber (m.exchange key) (verdict (m.exchange key).status form direction)
      else m.exchange key := by
  obtain ⟨-, hExchange, hNext⟩ := getOrCreate_spec m (srcArea, dstArea)
  have hStored : ∀ ex, ((m.getOrCreate (srcArea, dstArea)).2.store (srcArea, dstArea) ex).exchange key =
      if key = (srcArea, dstArea) then ex else m.exchange key := by
    intro ex
    rw [exchange_store, hExchange]
  by_cases hKey : key = (srcArea, dstArea)
  · subst hKey
    rw [submitTelegram_eq, if_pos rfl]
    cases hVerdict : verdict (m.exchange (srcArea, dstArea)).status form direction with
    | opens =>
      rw [exchangeAfter, ← hNext]
      exact (hStored _).trans (if_pos rfl)
    | moves status => exact (hStored _).trans (if_pos rfl)
    | noted => exact congrFun hExchange _
    | refused reason hReason => exact congrFun hExchange _
  · rw [submitTelegram_eq, if_neg hKey]
    cases verdict (m.exchange (srcArea, dstArea)).status form direction with
    | opens => exact (hStored _).trans (if_neg hKey)
    | moves status => exact (hStored _).trans (if_neg hKey)
    | noted => exact congrFun hExchange _
    | refused reason hReason => exact congrFun hExchange _

theorem nextId_submitTelegram : (m.submitTelegram srcArea dstArea form direction trainNumber).2.nextId =
    if verdict (m.exchange (srcArea, dstArea)).status form direction = .opens then m.nextId + 1 else m.nextId := by
  obtain ⟨-, -, hNext⟩ := getOrCreate_spec m (srcArea, dstArea)
  rw [submitTelegram_eq]
  cases verdict (m.exchange (srcArea, dstArea)).status form direction with
  | opens => simp [enact, hNext]
  | moves status => simp [enact, hNext]
  | noted => simp [enact, hNext]
  | refused reason hReason => simp [enact, hNext]

theorem result_submitTelegram : (m.submitTelegram srcArea dstArea form direction trainNumber).1.result = .accepted ↔
    (verdict (m.exchange (srcArea, dstArea)).status form direction).accepts = true := by
  rw [submitTelegram_eq]
  cases verdict (m.exchange (srcArea, dstArea)).status form direction with
  | opens => simp [enact, Verdict.accepts]
  | moves status => simp [enact, Verdict.accepts]
  | noted => simp [enact, Verdict.accepts]
  | refused reason hReason => simp [enact, hReason, Verdict.accepts]

theorem exchangeId_submitTelegram (h : verdict (m.exchange (srcArea, dstArea)).status form direction = .opens) :
    (m.submitTelegram srcArea dstArea form direction trainNumber).1.exchangeId = exchangeIdOf m.nextId := by
  rw [submitTelegram_eq, h]
  simp [enact, (getOrCreate_spec m (srcArea, dstArea)).2.2]

theorem exchange_close (key : AreaPair) : (m.close srcArea dstArea).exchange key =
    if key = (srcArea, dstArea) ∧ (m.exchange key).status = .s26Received then
      { m.exchange key with status := .closed }
    else m.exchange key := by
  unfold close
  cases hEntry : m.exchanges (srcArea, dstArea) with
  | none =>
    refine (if_neg ?_).symm
    rintro ⟨rfl, hStatus⟩
    rw [exchange, hEntry] at hStatus
    cases hStatus
  | some ex =>
    have hExchange : m.exchange (srcArea, dstArea) = ex := by simp [exchange, hEntry]
    by_cases hKey : key = (srcArea, dstArea)
    · subst hKey
      by_cases hStatus : ex.status = .s26Received
      · simp [hStatus, hExchange]
      · simp [hStatus, hExchange]
    · by_cases hStatus : ex.status = .s26Received
      · simp [hStatus, hKey]
      · simp [hStatus, hKey]

theorem nextId_close : (m.close srcArea dstArea).nextId = m.nextId := by
  unfold close
  split
  · rfl
  · split <;> rfl

end DispatchExchangeManager

end Symulator.Server
