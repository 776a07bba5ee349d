import Symulator.Server.LineClear

/-! # The number of an exchange on the wire

The identifier of an exchange is a text, the field of the message a number. The channel reads the number off the
front of the text, where there is none, and so announces every exchange as number zero.
-/

namespace Symulator.Server

open Symulator.Library

set_option autoImplicit false

namespace DispatchChannel

variable (read : List Byte → Option ChannelMessage) (finish : ChannelMessage → List Byte)

/-- The outcome of a telegram that is accepted, and the message that is broadcast about it. -/
def announced (c : DispatchCoordinator) (call : Inbound) : Option (DispatchOutcome × ChannelMessage) := do
  let msg ← admitted read call
  let f ← formAdmitted read call
  let outcome ← c.answer f
  return (outcome, formReply msg call f outcome)

/-- The telegrams accepted in a run, in their order. -/
def announcements (c : DispatchCoordinator) : List Inbound → List (DispatchOutcome × ChannelMessage)
  | [] => []
  | call :: calls => (announced read c call).toList ++ announcements (onInbound read finish c call).1 calls

/-- The message is in the frame that goes out to the two areas. -/
theorem onInbound_of_announced {c : DispatchCoordinator} {call : Inbound} {sent : DispatchOutcome × ChannelMessage}
    (h : announced read c call = some sent) : ∃ msg written, admitted read call = some msg ∧
      (onInbound read finish c call).2 = .ok (written, some (broadcastToPair finish msg sent.2)) := by
  obtain ⟨msg, hAdmitted, h⟩ := Option.bind_eq_some_iff.mp h
  obtain ⟨f, hForm, h⟩ := Option.bind_eq_some_iff.mp h
  obtain ⟨outcome, hAnswer, h⟩ := Option.bind_eq_some_iff.mp h
  cases h
  obtain ⟨msg', hAdmitted', hKind⟩ := Option.bind_eq_some_iff.mp hForm
  cases hAdmitted.symm.trans hAdmitted'
  have hTelegram : ¬ msg.kind = Proto.kindFreeText := by
    intro hText
    rw [if_pos hText] at hKind
    cases hKind
  rw [if_neg hTelegram] at hKind
  obtain ⟨written, hAnswer⟩ : ∃ written, (c.handleDispatchForm f).2 = .ok (written, some outcome) := by
    unfold DispatchCoordinator.answer at hAnswer
    split at hAnswer
    · rename_i written answered hResult
      exact ⟨written, hAnswer ▸ hResult⟩
    · cases hAnswer
  refine ⟨msg, written, hAdmitted, ?_⟩
  simp only [onInbound, hAdmitted, if_neg hTelegram, hKind, hAnswer]
  rfl

variable {read finish}

/-! ## Pairs that have opened no exchange -/

/-- Every pair is idle. -/
def Unopened (c : DispatchCoordinator) : Prop := ∀ pair, (c.exchanges.exchange pair).status = .idle

/-- The forms the channel brings are those of the procedure, between areas that are numbers. -/
theorem formOf_spec {msg : ChannelMessage} {timestampUs : UInt64} {f : DispatchForm}
    (h : formOf msg timestampUs = some f) :
    isSupplementary f.form = false ∧ f.srcArea = toString msg.srcAreaUid ∧ f.dstArea = toString msg.dstAreaUid := by
  unfold formOf at h
  split at h
  · cases h
    refine ⟨?_, rfl, rfl⟩
    dsimp only [toEngineForm]
    repeat' split
    all_goals rfl
  · cases h

theorem verdict_idle {form : DispatchFormType} {direction : TelegramDirection} (h : isSupplementary form = false) :
    (isOpening form = true ∧ direction = .sent ∧ verdict .idle form direction = .opens) ∨
      (¬ (isOpening form = true ∧ direction = .sent) ∧
        ∃ reason hReason, verdict .idle form direction = .refused reason hReason) := by
  cases form <;> cases direction <;> simp [verdict, isOpening, isSupplementary] at h ⊢

theorem exchange_of_refused {c : DispatchCoordinator} {f : DispatchForm} {reason : TelegramResult}
    {hReason : reason ≠ .accepted}
    (h : verdict (c.exchanges.exchange (f.srcArea, f.dstArea)).status f.form f.direction = .refused reason hReason)
    (pair : AreaPair) : ((c.handleDispatchForm f).1.exchanges.exchange pair) = c.exchanges.exchange pair := by
  rw [DispatchCoordinator.handleDispatchForm_exchanges, DispatchExchangeManager.exchange_submitTelegram]
  split
  · rename_i hPair
    rw [hPair, h]
    rfl
  · rfl

theorem answer_of_request {c : DispatchCoordinator} {f : DispatchForm} {src dst : UInt64}
    (hSrc : f.srcArea = toString src) (hDst : f.dstArea = toString dst) (hRequest : isRequest f = true)
    (hIdle : (c.exchanges.exchange (f.srcArea, f.dstArea)).status = .idle) :
    c.answer f = some ⟨exchangeIdOf c.exchanges.nextId, .s2Sent⟩ := by
  obtain ⟨hOpening, hSent⟩ : isOpening f.form = true ∧ f.direction = .sent := of_decide_eq_true hRequest
  have hVerdict : verdict (c.exchanges.exchange (f.srcArea, f.dstArea)).status f.form f.direction = .opens := by
    rw [hIdle, hSent]
    cases hForm : f.form <;> rw [hForm] at hOpening <;> first | rfl | cases hOpening
  have hOutcome : (c.exchanges.submitTelegram f.srcArea f.dstArea f.form f.direction f.trainNumber).1 =
      ⟨.accepted, .s2Sent, .confirmed, exchangeIdOf c.exchanges.nextId⟩ := by
    rw [DispatchExchangeManager.submitTelegram_eq, hVerdict, DispatchExchangeManager.enact,
      (DispatchExchangeManager.getOrCreate_spec c.exchanges _).2.2]
  have hClear : c.clearTimeWrites f = .ok [] := by
    refine if_neg ?_
    rintro (hForm | hForm) <;> rw [hForm] at hOpening <;> cases hOpening
  have hEdr : EdrCoordinator.onTelegramAccepted c.sessionId f.form f.direction f.srcArea f.dstArea f.trainNumber
      f.timestampUs = .ok [] := by
    unfold EdrCoordinator.onTelegramAccepted
    rw [hSent, if_pos rfl, hSrc, stoull_toString]
    cases hForm : f.form <;> rw [hForm] at hOpening <;> first | rfl | cases hOpening
  unfold DispatchCoordinator.answer DispatchCoordinator.handleDispatchForm
  dsimp only
  rw [hOutcome, hClear, hEdr, hSrc, hDst, stoull_toString, stoull_toString]
  rfl

/-- A call that brings a request. -/
def BringsRequest (read : List Byte → Option ChannelMessage) (call : Inbound) : Prop :=
  ∃ f, formAdmitted read call = some f ∧ isRequest f = true

theorem formAdmitted_supplementary {call : Inbound} {f : DispatchForm} (h : formAdmitted read call = some f) :
    isSupplementary f.form = false ∧ ∃ src dst : UInt64, f.srcArea = toString src ∧ f.dstArea = toString dst := by
  obtain ⟨msg, -, hForm, -⟩ := formAdmitted_spec h
  obtain ⟨hPlain, hSrc, hDst⟩ := formOf_spec hForm
  exact ⟨hPlain, msg.srcAreaUid, msg.dstAreaUid, hSrc, hDst⟩

/-- Where no exchange was opened a call that brings no request is not accepted and opens none. -/
theorem quiet_of_noRequest {c : DispatchCoordinator} {call : Inbound} (hIdle : Unopened c)
    (h : ¬ BringsRequest read call) :
    announced read c call = none ∧ Unopened (onInbound read finish c call).1 := by
  have hExchanges := @onInbound_exchanges read finish c call
  cases hForm : formAdmitted read call with
  | none =>
    rw [hForm, Option.elim_none] at hExchanges
    refine ⟨?_, fun pair => by rw [hExchanges]; exact hIdle pair⟩
    unfold announced
    rw [hForm]
    cases admitted read call <;> rfl
  | some f =>
    rw [hForm, Option.elim_some, ← DispatchCoordinator.handleDispatchForm_exchanges] at hExchanges
    have hOther : ¬ (isOpening f.form = true ∧ f.direction = .sent) :=
      fun hRequest => h ⟨f, hForm, decide_eq_true hRequest⟩
    obtain ⟨reason, hReason, hVerdict⟩ : ∃ reason hReason,
        verdict (c.exchanges.exchange (f.srcArea, f.dstArea)).status f.form f.direction = .refused reason hReason := by
      rw [hIdle]
      rcases verdict_idle (formAdmitted_supplementary hForm).1 with ⟨hOpening, hSent, -⟩ | ⟨-, hRefused⟩
      · exact absurd ⟨hOpening, hSent⟩ hOther
      · exact hRefused
    have hUnanswered : c.answer f = none := by
      by_contra hAnswer
      have hAccepts := DispatchCoordinator.verdict_of_answer (Option.isSome_iff_ne_none.mpr hAnswer)
      rw [hVerdict] at hAccepts
      cases hAccepts
    refine ⟨?_, fun pair => ?_⟩
    · unfold announced
      rw [hForm]
      simp only [Option.bind_eq_bind, Option.bind_some, hUnanswered]
      cases admitted read call <;> rfl
    · rw [hExchanges, exchange_of_refused hVerdict]
      exact hIdle pair

theorem stoull_exchangeIdOf (n : UInt64) : stoull (exchangeIdOf n) = .error .invalidArgument := by
  have hText : (exchangeIdOf n).toList = 'e' :: ("xch-".toList ++ (zeroPadded 7 n.toNat).toList) := by
    rw [exchangeIdOf, String.toList_append]
    rfl
  exact stoull_of_letter hText (by decide) (by decide) (by decide) (by decide)

theorem announced_of_request {c : DispatchCoordinator} {call : Inbound} (hIdle : Unopened c)
    (h : BringsRequest read call) :
    ∃ sent, announced read c call = some sent ∧ sent.2.exchangeUid = 0 := by
  obtain ⟨f, hForm, hRequest⟩ := h
  obtain ⟨-, src, dst, hSrc, hDst⟩ := formAdmitted_supplementary hForm
  obtain ⟨msg, hAdmitted, -, -⟩ := formAdmitted_spec hForm
  have hAnswer := answer_of_request hSrc hDst hRequest (hIdle _)
  refine ⟨(⟨exchangeIdOf c.exchanges.nextId, .s2Sent⟩,
    formReply msg call f ⟨exchangeIdOf c.exchanges.nextId, .s2Sent⟩), ?_, ?_⟩
  · unfold announced
    rw [hAdmitted, hForm]
    simp only [Option.bind_eq_bind, Option.bind_some, hAnswer]
    rfl
  · simp only [formReply, stoull_exchangeIdOf]
    rfl

theorem announcements_of_quiet {c : DispatchCoordinator} {calls : List Inbound} (hIdle : Unopened c)
    (h : ∀ call ∈ calls, ¬ BringsRequest read call) : announcements read finish c calls = [] := by
  induction calls generalizing c with
  | nil => rfl
  | cons call calls ih =>
    obtain ⟨hNone, hNext⟩ := @quiet_of_noRequest read finish c call hIdle (h call List.mem_cons_self)
    rw [announcements, hNone, ih hNext fun other hOther => h other (List.mem_cons_of_mem _ hOther)]
    rfl

theorem exists_announcement {c : DispatchCoordinator} {calls : List Inbound} (hIdle : Unopened c)
    (h : ∃ call ∈ calls, BringsRequest read call) :
    ∃ sent ∈ announcements read finish c calls, sent.2.exchangeUid = 0 := by
  induction calls generalizing c with
  | nil =>
    obtain ⟨call, hCall, -⟩ := h
    cases hCall
  | cons call calls ih =>
    rw [announcements]
    by_cases hFirst : BringsRequest read call
    · obtain ⟨sent, hSent, hZero⟩ := announced_of_request hIdle hFirst
      exact ⟨sent, by simp [hSent], hZero⟩
    · obtain ⟨hNone, hNext⟩ := @quiet_of_noRequest read finish c call hIdle hFirst
      obtain ⟨other, hOther, hRequest⟩ := h
      have hLater : other ∈ calls := by
        rcases List.mem_cons.mp hOther with rfl | hLater
        · exact absurd hRequest hFirst
        · exact hLater
      obtain ⟨sent, hSent, hZero⟩ := ih hNext ⟨other, hLater, hRequest⟩
      exact ⟨sent, List.mem_append_right _ hSent, hZero⟩

/-- The numbers announced are those of the exchanges: none is zero, two are equal exactly when the exchanges are, and
each is the number that the identifier was made from. -/
structure Recovered (sent : List (DispatchOutcome × ChannelMessage)) : Prop where
  nonzero : ∀ a ∈ sent, a.2.exchangeUid ≠ 0
  apart : ∀ a ∈ sent, ∀ b ∈ sent, a.2.exchangeUid = b.2.exchangeUid ↔ a.1.exchangeId = b.1.exchangeId
  counter : ∀ a ∈ sent, ∀ n, a.1.exchangeId = exchangeIdOf n → a.2.exchangeUid = n

/-- The numbers of the exchanges are recovered only in runs that open no exchange. -/
theorem exchangeUids_recovered_iff (read : List Byte → Option ChannelMessage) (finish : ChannelMessage → List Byte)
    (sessionId : String) (calls : List Inbound) :
    Recovered (announcements read finish { sessionId } calls) ↔ ∀ call ∈ calls, ¬ BringsRequest read call := by
  have hIdle : Unopened { sessionId } := fun _ => rfl
  constructor
  · intro hRecovered call hCall hRequest
    obtain ⟨sent, hSent, hZero⟩ := @exists_announcement read finish _ calls hIdle ⟨call, hCall, hRequest⟩
    exact hRecovered.nonzero sent hSent hZero
  · intro hQuiet
    rw [announcements_of_quiet hIdle hQuiet]
    exact ⟨by simp, by simp, by simp⟩

/-- The request for train 100 goes out as a telegram of exchange number zero. -/
theorem exchangeUid_lost : ¬ ∀ read finish sessionId calls,
    Recovered (announcements read finish { sessionId } calls) := by
  intro h
  have hRecovered := h LineWatch.readForm (fun _ => []) "" [⟨LineWatch.formPayload 0 0, "", "1", 0⟩]
  exact hRecovered.nonzero _ List.mem_cons_self (by decide +kernel)

end DispatchChannel

end Symulator.Server
