import Symulator.Server.DispatchChannel

/-! # Line clear

The line from `A` to `B` is to be cleared by `B`. The channel lets no message of `B` near the exchange of the pair
`(A, B)`, and takes the word of `A` that the grant was received.
-/

namespace Symulator.Server

open Symulator.Library

set_option autoImplicit false

/-- The coordinator beside a note of whether a message of the neighbour has been processed since the last
opening. -/
structure LineWatch where
  coordinator : DispatchCoordinator
  heard : Bool := false

namespace LineWatch

variable (read : List Byte → Option ChannelMessage) (finish : ChannelMessage → List Byte) (A B : String)

def status (w : LineWatch) : ExchangeStatus := w.coordinator.exchanges.status A B

def step (w : LineWatch) (call : Inbound) : Option LineWatch :=
  let coordinator := (DispatchChannel.onInbound read finish w.coordinator call).1
  some {
    coordinator
    heard :=
      if w.status A B ≠ .s2Sent ∧ coordinator.exchanges.status A B = .s2Sent then false
      else w.heard || ((DispatchChannel.admitted read call).isSome && call.senderAreaId = B) }

/-- A grant for the line from `A` to `B` that `B` sends, whichever area it names first. -/
def GrantFromNeighbour (call : Inbound) : Prop :=
  call.senderAreaId = B ∧ ∃ msg f, read call.payload = some msg ∧ msg.kind ≠ Proto.kindFreeText ∧
    DispatchChannel.formOf msg call.timestampUs = some f ∧ isGrant f.form = true ∧
      (f.srcArea = A ∧ f.dstArea = B ∨ f.srcArea = B ∧ f.dstArea = A ∧ f.direction = .sent)

/-- A form for the exchange of the pair that records a grant as received. -/
def RecordsGrant (call : Inbound) (f : DispatchForm) : Prop :=
  DispatchChannel.formAdmitted read call = some f ∧ (f.srcArea, f.dstArea) = (A, B) ∧ isGrant f.form = true ∧
    f.direction = .received

/-- The line is clear only when the neighbour was heard. -/
def ClearHeard (w : LineWatch) : Prop := w.status A B = .s24Received → w.heard = true

/-- A grant of the neighbour is accepted. -/
def GrantTaken (w : LineWatch) (call : Inbound) (w' : LineWatch) : Prop :=
  GrantFromNeighbour read A B call → w.status A B = .s2Sent → w'.status A B = .s24Received

/-- While the request is out, `A` records no grant before it has heard of its neighbour, and the neighbour sends
none. For a line from an area to itself the grant recorded as received is its own. -/
def ClearGuard (w : LineWatch) (call : Inbound) : Prop :=
  w.status A B = .s2Sent →
    (∀ f, RecordsGrant read A B call f → w.heard = true ∨ A = B) ∧
    (GrantFromNeighbour read A B call → A = B ∧ ∃ f, RecordsGrant read A B call f)

variable {read finish A B}

open DispatchExchangeManager (statusAfter)

/-- The line becomes clear by a grant received while the request is out, and by nothing else. -/
theorem clear_cases {status : ExchangeStatus} {form : DispatchFormType} {direction : TelegramDirection}
    (h : statusAfter status (verdict status form direction) = .s24Received) :
    status = .s24Received ∨ status = .s2Sent ∧ isGrant form = true ∧ direction = .received := by
  cases form <;> cases direction <;> cases status <;>
    first | exact Or.inl rfl | exact Or.inr ⟨rfl, rfl, rfl⟩ | cases h

theorem clear_of_grant {form : DispatchFormType} (hForm : isGrant form = true) :
    statusAfter .s2Sent (verdict .s2Sent form .received) = .s24Received := by
  cases form <;> first | rfl | cases hForm

theorem status_onInbound (c : DispatchCoordinator) (call : Inbound) :
    (DispatchChannel.onInbound read finish c call).1.exchanges.status A B =
      (DispatchChannel.formAdmitted read call).elim (c.exchanges.status A B) fun f =>
        if (A, B) = (f.srcArea, f.dstArea) then
          statusAfter (c.exchanges.status A B) (verdict (c.exchanges.status A B) f.form f.direction)
        else c.exchanges.status A B := by
  simp only [DispatchExchangeManager.status_eq, DispatchChannel.onInbound_exchanges]
  cases DispatchChannel.formAdmitted read call with
  | none => rfl
  | some f =>
    rw [Option.elim_some, Option.elim_some, DispatchExchangeManager.exchange_submitTelegram]
    split
    · exact DispatchExchangeManager.status_exchangeAfter _ _ _ _
    · rfl

/-- The line was clear before a call, or becomes clear because `A` records a grant. -/
theorem recorded_of_clear {c : DispatchCoordinator} {call : Inbound}
    (h : (DispatchChannel.onInbound read finish c call).1.exchanges.status A B = .s24Received) :
    c.exchanges.status A B = .s24Received ∨
      c.exchanges.status A B = .s2Sent ∧ ∃ f, RecordsGrant read A B call f := by
  rw [status_onInbound] at h
  cases hForm : DispatchChannel.formAdmitted read call with
  | none =>
    rw [hForm] at h
    exact Or.inl h
  | some f =>
    rw [hForm, Option.elim_some] at h
    split at h
    · rename_i hPair
      rcases clear_cases h with hClear | ⟨hSent, hGrant, hReceived⟩
      · exact Or.inl hClear
      · exact Or.inr ⟨hSent, f, hForm, hPair.symm, hGrant, hReceived⟩
    · exact Or.inl h

theorem clear_of_recorded {c : DispatchCoordinator} {call : Inbound} {f : DispatchForm}
    (h : c.exchanges.status A B = .s2Sent) (hRecords : RecordsGrant read A B call f) :
    (DispatchChannel.onInbound read finish c call).1.exchanges.status A B = .s24Received := by
  obtain ⟨hForm, hPair, hGrant, hReceived⟩ := hRecords
  rw [status_onInbound, hForm, Option.elim_some, if_pos hPair.symm, h, hReceived]
  exact clear_of_grant hGrant

theorem sender_of_recorded {call : Inbound} {f : DispatchForm} (h : RecordsGrant read A B call f) :
    (DispatchChannel.admitted read call).isSome = true ∧ call.senderAreaId = A := by
  obtain ⟨hForm, hPair, -⟩ := h
  obtain ⟨msg, hAdmitted, -, hSender⟩ := DispatchChannel.formAdmitted_spec hForm
  refine ⟨by rw [hAdmitted]; rfl, ?_⟩
  rw [← hSender]
  exact (Prod.mk.inj hPair).1

theorem clear_step_iff {w w' : LineWatch} {call : Inbound} (h : w.ClearHeard A B)
    (hStep : w.step read finish A B call = some w') :
    w.GrantTaken read A B call w' ∧ w'.ClearHeard A B ↔ w.ClearGuard read A B call := by
  cases hStep
  constructor
  · rintro ⟨hTaken, hHeard⟩ hSent
    constructor
    · intro f hRecords
      have hClear := @clear_of_recorded read finish A B _ _ _ hSent hRecords
      have hNow := hHeard hClear
      obtain ⟨hAdmitted, hSender⟩ := sender_of_recorded hRecords
      have hNotOpened : ¬ (w.status A B ≠ .s2Sent ∧
          (DispatchChannel.onInbound read finish w.coordinator call).1.exchanges.status A B = .s2Sent) :=
        fun hOpened => hOpened.1 hSent
      rw [if_neg hNotOpened, hAdmitted, hSender, Bool.true_and, Bool.or_eq_true, decide_eq_true_eq] at hNow
      exact hNow
    · intro hGrant
      rcases recorded_of_clear (hTaken hGrant hSent) with hClear | ⟨-, f, hRecords⟩
      · rw [status, hClear] at hSent
        cases hSent
      · exact ⟨(sender_of_recorded hRecords).2.symm.trans hGrant.1, f, hRecords⟩
  · intro hGuard
    constructor
    · intro hGrant hSent
      obtain ⟨-, f, hRecords⟩ := (hGuard hSent).2 hGrant
      exact clear_of_recorded hSent hRecords
    · intro hClear
      have hNotOpened : ¬ (w.status A B ≠ .s2Sent ∧
          (DispatchChannel.onInbound read finish w.coordinator call).1.exchanges.status A B = .s2Sent) := by
        rintro ⟨-, hOpened⟩
        cases hOpened.symm.trans hClear
      dsimp only
      rw [if_neg hNotOpened, Bool.or_eq_true]
      rcases recorded_of_clear hClear with hBefore | ⟨hSent, f, hRecords⟩
      · exact Or.inl (h hBefore)
      · rcases (hGuard hSent).1 f hRecords with hHeard | hSelf
        · exact Or.inl hHeard
        · obtain ⟨hAdmitted, hSender⟩ := sender_of_recorded hRecords
          right
          rw [hAdmitted, hSender, Bool.true_and]
          exact decide_eq_true hSelf

/-- The line is clear only on word from the neighbour, and the neighbour's grants count, exactly in the runs in
which `A` records a grant only after hearing of the neighbour, and the neighbour sends none. -/
theorem clear_iff_guarded (read : List Byte → Option ChannelMessage) (finish : ChannelMessage → List Byte)
    (A B sessionId : String) (calls : List Inbound) :
    Always (step read finish A B) (ClearHeard A B) { coordinator := { sessionId } } calls ∧
        EachStep (step read finish A B) (GrantTaken read A B) { coordinator := { sessionId } } calls ↔
      Guarded (step read finish A B) (ClearGuard read A B) { coordinator := { sessionId } } calls := by
  have hStart : ClearHeard A B { coordinator := { sessionId } } := by
    intro hClear
    cases hClear
  obtain ⟨w, hRun⟩ := @exists_run _ _ (step read finish A B) (fun _ _ => rfl) { coordinator := { sessionId } } calls
  rw [← eachStep_and_iff hStart]
  exact eachStep_iff_guarded_within _ (ClearHeard A B) (fun _ _ => True) (ClearGuard read A B)
    (fun w call w' h _ hStep => clear_step_iff h hStep)
    (fun w call w' h _ hGuard hStep => ((clear_step_iff h hStep).mpr hGuard).2)
    hStart (guarded_of_forall_mem (fun _ _ _ => trivial) _) hRun

/-! ## A grant to oneself -/

/-- The message that brings a form about train 100 from area 1 to area 2. -/
def formPayload (direction formType : Byte) : List Byte :=
  [24, 0, 0, 0,
    16, 0, 28, 0, 8, 0, 16, 0, 24, 0, 25, 0, 26, 0, 4, 0, 0, 0, 0, 0,
    20, 0, 0, 0, 32, 0, 0, 0, 1, 0, 0, 0, 0, 0, 0, 0, 2, 0, 0, 0, 0, 0, 0, 0, direction, 0, 1, 0,
    8, 0, 12, 0, 8, 0, 4, 0,
    8, 0, 0, 0, 8, 0, 0, 0, formType, 0, 0, 0,
    3, 0, 0, 0, 49, 48, 48, 0]

def readForm (payload : List Byte) : Option ChannelMessage :=
  let direction := payload.getD 48 0
  let formType := payload.getD 68 0
  if payload = formPayload direction formType then
    some { srcAreaUid := 1, dstAreaUid := 2, direction, body := .dispatchForm formType (some "100") none none }
  else none

/-- Area 1 asks area 2, and records the grant itself. -/
theorem grant_toOneself : ¬ ∀ read finish A B sessionId calls,
    Always (step read finish A B) (ClearHeard A B) { coordinator := { sessionId } } calls ∧
      EachStep (step read finish A B) (GrantTaken read A B) { coordinator := { sessionId } } calls := by
  intro h
  obtain ⟨hAlways, -⟩ := h readForm (fun _ => []) "1" "2" ""
    [⟨formPayload 0 0, "", "1", 0⟩, ⟨formPayload 1 1, "", "1", 0⟩]
  have hClear := ((hAlways.2 _ rfl).2 _ rfl).head
  have hHeard := hClear (by decide +kernel)
  exact absurd hHeard (by decide +kernel)

end LineWatch

end Symulator.Server
