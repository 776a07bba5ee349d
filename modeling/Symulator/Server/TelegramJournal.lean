import Symulator.Server.LineClear
import Symulator.Server.PgDatabase

/-! # The journal of telegrams

Each telegram goes into a table with its fate, and that table tells everything else the dispatch keeps: where the
exchange of each pair of areas stands, and what has been entered in the register of trains. So each departure in the
register can be followed back to the request and the grant that cleared the line for it.
-/

namespace Symulator.Server

open Symulator.Library

set_option autoImplicit false

/-! ## What a row tells -/

/-- The status that an accepted telegram brings its exchange to. -/
def statusReached (formType : String) : Option ExchangeStatus :=
  if formType = "S2" ∨ formType = "S55" then some .s2Sent
  else if formType = "S24" ∨ formType = "S56" then some .s24Received
  else if formType = "S25" then some .s25Sent
  else if formType = "S26" then some .s26Received
  else if formType = "S35" then some .cancelled
  else none

/-- The status from which a status is reached, unless it is that of an exchange just opened. -/
def statusBefore : ExchangeStatus → Option ExchangeStatus
  | .s24Received | .cancelled => some .s2Sent
  | .s25Sent => some .s24Received
  | .s26Received => some .s25Sent
  | .idle | .s2Sent | .closed => none

namespace TelegramRow

def accepted (row : TelegramRow) : Bool := row.status = "ACCEPTED"

def pair (row : TelegramRow) : AreaPair := (toString row.fromUid, toString row.toUid)

/-- The status that the row brings its exchange to, if it brings it to one. -/
def reaches (row : TelegramRow) : Option ExchangeStatus :=
  if row.accepted then statusReached row.formType else none

/-- What the row makes of the exchange of a pair. -/
def exchangeAfter (row : TelegramRow) (pair : AreaPair) (ex : ExchangeState) : ExchangeState :=
  if row.pair = pair then row.reaches.elim ex fun status => ⟨row.exchangeId, status, row.trainNumber⟩ else ex

/-- The row brings its exchange on from where it stands, under the identifier it has. -/
def CarriesOn (row : TelegramRow) (ex : ExchangeState) : Prop :=
  ∀ status ∈ row.reaches, ∀ before ∈ statusBefore status, ex.status = before ∧ row.exchangeId = ex.exchangeId

/-- The station that a departure or an arrival is entered for. -/
def station (row : TelegramRow) : UInt64 := if row.direction = "SENT" then row.fromUid else row.toUid

/-- What an accepted telegram has entered in the register. -/
def edrWrites (sessionId : String) (row : TelegramRow) : List DbWrite :=
  match row.reaches with
  | some .s24Received => [.edrTrackClearTime sessionId row.trainNumber row.toUid row.timestampUs]
  | some .s25Sent => [.edrDeparture sessionId row.trainNumber row.station row.timestampUs]
  | some .s26Received => [.edrArrival sessionId row.trainNumber row.station row.timestampUs]
  | _ => []

end TelegramRow

/-- The exchange of a pair as the rows tell it. -/
def exchangeOf (pair : AreaPair) (rows : List TelegramRow) : ExchangeState :=
  rows.foldl (fun ex row => row.exchangeAfter pair ex) {}

theorem exchangeOf_concat (pair : AreaPair) (rows : List TelegramRow) (row : TelegramRow) :
    exchangeOf pair (rows ++ [row]) = row.exchangeAfter pair (exchangeOf pair rows) := by
  rw [exchangeOf, List.foldl_concat, exchangeOf]

/-! ## The coordinator and its rows -/

/-- A call leaves everything as it is, or one row with the entries that it tells of. -/
inductive Journals (c c' : DispatchCoordinator) : List DbWrite → Prop
  | nothing (hSame : c' = c) : Journals c c' []
  | row (row : TelegramRow) (hSession : c'.sessionId = c.sessionId)
      (hExchange : ∀ pair, c'.exchanges.exchange pair = row.exchangeAfter pair (c.exchanges.exchange pair))
      (hNext : c'.exchanges.nextId = if row.reaches = some .s2Sent then c.exchanges.nextId + 1 else c.exchanges.nextId)
      (hCarriesOn : row.CarriesOn (c.exchanges.exchange row.pair)) :
    Journals c c' (.dispatchTelegram c.sessionId row :: row.edrWrites c.sessionId)

theorem statusReached_formTypeStr (form : DispatchFormType) : statusReached (formTypeStr form) =
    if isOpening form then some .s2Sent
    else if isGrant form then some .s24Received
    else if form = .s25 then some .s25Sent
    else if form = .s26 then some .s26Received
    else if form = .s35 then some .cancelled
    else none := by
  cases form <;> decide

/-- The status that a verdict brings the exchange to. -/
def Verdict.reaches : Verdict → Option ExchangeStatus
  | .opens => some .s2Sent
  | .moves status => some status
  | .noted | .refused _ _ => none

theorem Verdict.reaches_eq (status : ExchangeStatus) (form : DispatchFormType) (direction : TelegramDirection) :
    (verdict status form direction).reaches =
      if (verdict status form direction).accepts then statusReached (formTypeStr form) else none := by
  rw [statusReached_formTypeStr]
  cases form <;> cases direction <;> cases status <;> rfl

/-- A form that moves an exchange on finds it where it is moved from. -/
theorem Verdict.status_of_reaches {status reached before : ExchangeStatus} {form : DispatchFormType}
    {direction : TelegramDirection} (h : (verdict status form direction).reaches = some reached)
    (hBefore : statusBefore reached = some before) :
    status = before ∧ verdict status form direction = .moves reached := by
  obtain ⟨-, -, hVerdict⟩ | ⟨-, hStatus, hVerdict⟩ | ⟨-, hStatus, hVerdict⟩ | ⟨-, hStatus, hVerdict⟩ |
      ⟨-, hStatus, hVerdict⟩ | ⟨-, hVerdict⟩ | ⟨_, _, hVerdict⟩ := @verdict_cases status form direction
  case inl =>
    rw [hVerdict] at h
    cases h
    cases hBefore
  case inr.inr.inr.inr.inr.inl | inr.inr.inr.inr.inr.inr =>
    rw [hVerdict] at h
    cases h
  all_goals
    rw [hVerdict] at h
    cases h
    cases hBefore
    exact ⟨hStatus, hVerdict⟩

theorem Verdict.reaches_s2Sent (status : ExchangeStatus) (form : DispatchFormType) (direction : TelegramDirection) :
    (verdict status form direction).reaches = some .s2Sent ↔ verdict status form direction = .opens := by
  cases form <;> cases direction <;> cases status <;> simp [verdict, Verdict.reaches]

open DispatchExchangeManager DispatchCoordinator

section Row

variable (c : DispatchCoordinator) (f : DispatchForm) (a b : UInt64)

/-- How the exchange of the form judges it. -/
def judged : Verdict := verdict (c.exchanges.exchange (f.srcArea, f.dstArea)).status f.form f.direction

/-- The row that the form leaves. -/
def rowOf : TelegramRow :=
  telegramRow f (c.exchanges.submitTelegram f.srcArea f.dstArea f.form f.direction f.trainNumber).1 a b

theorem accepted_rowOf : (rowOf c f a b).accepted = (judged c f).accepts := by
  have hResult := result_submitTelegram c.exchanges f.srcArea f.dstArea f.form f.direction f.trainNumber
  rw [Bool.eq_iff_iff, judged, ← hResult]
  simp only [TelegramRow.accepted, rowOf, telegramRow]
  split
  · rename_i hRefused
    exact ⟨fun h => absurd h (by decide), fun h => absurd h hRefused⟩
  · rename_i hAccepted
    exact ⟨fun _ => not_not.mp hAccepted, fun _ => rfl⟩

theorem exchangeId_rowOf : (rowOf c f a b).exchangeId = match judged c f with
    | .opens => exchangeIdOf c.exchanges.nextId
    | .moves _ | .noted => (c.exchanges.exchange (f.srcArea, f.dstArea)).exchangeId
    | .refused _ _ => "" := by
  have hNext := (getOrCreate_spec c.exchanges (f.srcArea, f.dstArea)).2.2
  simp only [rowOf, telegramRow, judged, submitTelegram_eq]
  cases verdict (c.exchanges.exchange (f.srcArea, f.dstArea)).status f.form f.direction <;> simp [enact, hNext]

theorem reaches_rowOf : (rowOf c f a b).reaches = (judged c f).reaches := by
  rw [TelegramRow.reaches, accepted_rowOf, judged, Verdict.reaches_eq]
  rfl

variable {a b}

/-- What is entered in the register for a form that is accepted, its row tells. -/
theorem edrWrites_rowOf (hSrc : stoull f.srcArea = .ok a) (hDst : stoull f.dstArea = .ok b)
    (hAccepted : (rowOf c f a b).accepted = true) : ∃ clearTime edr, c.clearTimeWrites f = .ok clearTime ∧
      EdrCoordinator.onTelegramAccepted c.sessionId f.form f.direction f.srcArea f.dstArea f.trainNumber f.timestampUs =
        .ok edr ∧ clearTime ++ edr = (rowOf c f a b).edrWrites c.sessionId := by
  have hStation : stoull (if f.direction = .sent then f.srcArea else f.dstArea) = .ok (rowOf c f a b).station := by
    cases hDirection : f.direction
    · simpa [TelegramRow.station, rowOf, telegramRow, hDirection] using hSrc
    · simpa [TelegramRow.station, rowOf, telegramRow, hDirection] using hDst
  have hReaches : (rowOf c f a b).reaches = statusReached (formTypeStr f.form) := if_pos hAccepted
  rw [statusReached_formTypeStr] at hReaches
  unfold clearTimeWrites EdrCoordinator.onTelegramAccepted TelegramRow.edrWrites
  rw [hStation, hDst, hReaches]
  cases f.form
  all_goals exact ⟨_, _, rfl, rfl, rfl⟩

/-- What is written for a form between two numbered areas is its row and what the row tells. -/
theorem written_rowOf (hSrc : stoull f.srcArea = .ok a) (hDst : stoull f.dstArea = .ok b) : ∃ answer,
    (c.handleDispatchForm f).2 = .ok (.dispatchTelegram c.sessionId (rowOf c f a b) ::
      (rowOf c f a b).edrWrites c.sessionId, answer) := by
  have hResult := result_submitTelegram c.exchanges f.srcArea f.dstArea f.form f.direction f.trainNumber
  change _ ↔ (judged c f).accepts = true at hResult
  rw [← accepted_rowOf c f a b] at hResult
  cases hAccepted : (rowOf c f a b).accepted with
  | true =>
    obtain ⟨clearTime, edr, hClear, hEdr, hWrites⟩ := edrWrites_rowOf c f hSrc hDst hAccepted
    let outcome := (c.exchanges.submitTelegram f.srcArea f.dstArea f.form f.direction f.trainNumber).1
    refine ⟨some ⟨outcome.exchangeId, outcome.newStatus⟩, ?_⟩
    simp only [handleDispatchForm, hSrc, hDst, hClear, hEdr, hResult.mpr hAccepted, ne_eq, not_true_eq_false, if_false,
      ← hWrites]
    rfl
  | false =>
    have hRefused : (rowOf c f a b).reaches = none := if_neg (by rw [hAccepted]; exact Bool.false_ne_true)
    have hOther := hResult.not.mpr (by rw [hAccepted]; exact Bool.false_ne_true)
    refine ⟨none, ?_⟩
    simp only [handleDispatchForm, hSrc, hDst, TelegramRow.edrWrites, hRefused, ne_eq, hOther,
      not_false_eq_true, if_true]
    rfl

end Row

/-- A form between two numbered areas leaves a row. -/
theorem handleDispatchForm_journals (c : DispatchCoordinator) {f : DispatchForm} {a b : UInt64}
    (hSrc : f.srcArea = toString a) (hDst : f.dstArea = toString b) : ∃ written answer,
      (c.handleDispatchForm f).2 = .ok (written, answer) ∧ Journals c (c.handleDispatchForm f).1 written := by
  have hPair : (rowOf c f a b).pair = (f.srcArea, f.dstArea) := by rw [hSrc, hDst]; rfl
  have hReaches := reaches_rowOf c f a b
  have hId := exchangeId_rowOf c f a b
  have hJournals : Journals c (c.handleDispatchForm f).1
      (.dispatchTelegram c.sessionId (rowOf c f a b) :: (rowOf c f a b).edrWrites c.sessionId) := by
    refine .row _ rfl (fun pair => ?_) ?_ ?_
    · rw [handleDispatchForm_exchanges, exchange_submitTelegram, TelegramRow.exchangeAfter, hPair]
      by_cases h : pair = (f.srcArea, f.dstArea)
      · rw [if_pos h, if_pos h.symm, h, hReaches, hId]
        change exchangeAfter _ _ _ (judged c f) = _
        cases judged c f <;> rfl
      · rw [if_neg h, if_neg (Ne.symm h)]
    · rw [handleDispatchForm_exchanges, nextId_submitTelegram, hReaches]
      exact if_congr (Verdict.reaches_s2Sent _ _ _).symm rfl rfl
    · intro status hStatus before hBefore
      rw [hReaches] at hStatus
      obtain ⟨hFrom, hMoves⟩ := Verdict.status_of_reaches hStatus hBefore
      rw [hPair, hId, judged, hMoves]
      exact ⟨hFrom, rfl⟩
  have hA : stoull f.srcArea = .ok a := by rw [hSrc, stoull_toString]
  have hB : stoull f.dstArea = .ok b := by rw [hDst, stoull_toString]
  obtain ⟨answer, hWritten⟩ := written_rowOf c f hA hB
  exact ⟨_, answer, hWritten, hJournals⟩

section Channel

variable (read : List Byte → Option ChannelMessage) (finish : ChannelMessage → List Byte)

theorem areas_of_formOf {msg : ChannelMessage} {timestampUs : UInt64} {f : DispatchForm}
    (h : DispatchChannel.formOf msg timestampUs = some f) :
    f.srcArea = toString msg.srcAreaUid ∧ f.dstArea = toString msg.dstAreaUid := by
  unfold DispatchChannel.formOf at h
  split at h
  · cases h
    exact ⟨rfl, rfl⟩
  · cases h

/-- A free text leaves a row that tells of nothing else. -/
theorem handleFreeText_journals (c : DispatchCoordinator) (a b : UInt64) (body : String) (timestampUs : UInt64) :
    ∃ written, c.handleFreeText (toString a) (toString b) body timestampUs = .ok written ∧ Journals c c written := by
  let row : TelegramRow := {
    formType := "FREE_TEXT", exchangeId := "", trainNumber := "", fromUid := a, toUid := b, direction := "SENT",
    status := "ACCEPTED", body, timestampUs }
  have hNothing : row.reaches = none := by
    change (if row.accepted then statusReached "FREE_TEXT" else none) = none
    rw [show statusReached "FREE_TEXT" = none by decide, ite_self]
  have hWrites : row.edrWrites c.sessionId = [] := by rw [TelegramRow.edrWrites, hNothing]
  refine ⟨.dispatchTelegram c.sessionId row :: row.edrWrites c.sessionId, ?_, .row row rfl (fun pair => ?_) ?_ ?_⟩
  · simp only [handleFreeText, stoull_toString, hWrites]
    rfl
  · rw [TelegramRow.exchangeAfter, hNothing, Option.elim_none, ite_self]
  · rw [hNothing, if_neg (by simp)]
  · intro status hStatus
    rw [hNothing] at hStatus
    cases hStatus

/-- No call throws, whatever comes in: each leaves everything as it is, or a row. -/
theorem onInbound_journals (c : DispatchCoordinator) (call : Inbound) : ∃ written answer,
    (DispatchChannel.onInbound read finish c call).2 = .ok (written, answer) ∧
      Journals c (DispatchChannel.onInbound read finish c call).1 written := by
  unfold DispatchChannel.onInbound
  split
  · exact ⟨_, _, rfl, .nothing rfl⟩
  · rename_i msg hAdmitted
    split
    · split
      · rename_i body hBody
        obtain ⟨written, hWritten, hJournals⟩ :=
          handleFreeText_journals c msg.srcAreaUid msg.dstAreaUid body call.timestampUs
        let reply := DispatchChannel.broadcastToPair finish msg (DispatchChannel.freeTextReply msg call body)
        refine ⟨written, some reply, ?_, hJournals⟩
        rw [hWritten]
        rfl
      · exact ⟨_, _, rfl, .nothing rfl⟩
    · split
      · exact ⟨_, _, rfl, .nothing rfl⟩
      · rename_i f hForm
        obtain ⟨hSrc, hDst⟩ := areas_of_formOf hForm
        obtain ⟨written, answer, hWritten, hJournals⟩ := handleDispatchForm_journals c hSrc hDst
        let reply outcome := DispatchChannel.broadcastToPair finish msg (DispatchChannel.formReply msg call f outcome)
        refine ⟨written, answer.map reply, ?_, hJournals⟩
        dsimp only
        rw [hWritten]
        rfl

end Channel

/-! ## The dispatch and its tables -/

structure DispatchDesk where
  coordinator : DispatchCoordinator := {}
  database : PgDatabase := {}

namespace DispatchDesk

def start (sessionUuid : String) (entries : List EdrEntry) : DispatchDesk where
  coordinator := { sessionId := sessionUuid }
  database := { edrEntries := entries }

variable (read : List Byte → Option ChannelMessage) (finish : ChannelMessage → List Byte)

def step (d : DispatchDesk) (call : Inbound) : Option DispatchDesk :=
  match DispatchChannel.onInbound read finish d.coordinator call with
  | (coordinator, .ok (written, _)) =>
    some { coordinator, database := written.foldl (PgDbWriter.write d.coordinator.sessionId) d.database }
  | (_, .error _) => none

def rows (d : DispatchDesk) : List TelegramRow := d.database.telegrams.map Prod.snd

/-- What the rows tell is what there is. -/
structure Told (sessionUuid : String) (entries : List EdrEntry) (d : DispatchDesk) : Prop where
  session : d.coordinator.sessionId = sessionUuid
  exchanges : ∀ pair, d.coordinator.exchanges.exchange pair = exchangeOf pair d.rows
  nextId : d.coordinator.exchanges.nextId =
    1 + UInt64.ofNat (d.rows.countP fun row => row.reaches = some .s2Sent)
  register : d.database.edrEntries = entries.map fun entry =>
    (d.rows.flatMap (TelegramRow.edrWrites sessionUuid)).foldl (PgDbWriter.updateEntry sessionUuid) entry
  carriesOn : ∀ before row after, d.rows = before ++ row :: after → row.CarriesOn (exchangeOf row.pair before)

variable {read finish} {sessionUuid : String} {entries : List EdrEntry} {d d' : DispatchDesk}

theorem told_start : Told sessionUuid entries (start sessionUuid entries) where
  session := rfl
  exchanges _ := rfl
  nextId := rfl
  register := (List.map_id _).symm
  carriesOn before row after hSplit := by cases before <;> cases hSplit

theorem telegrams_edrWrites (row : TelegramRow) (db : PgDatabase) :
    ((row.edrWrites sessionUuid).foldl (PgDbWriter.write sessionUuid) db).telegrams = db.telegrams := by
  unfold TelegramRow.edrWrites
  split <;> rfl

theorem Told.step (h : Told sessionUuid entries d) {call : Inbound} (hStep : d.step read finish call = some d') :
    Told sessionUuid entries d' := by
  obtain ⟨written, answer, hWritten, hJournals⟩ := onInbound_journals read finish d.coordinator call
  have hInbound : DispatchChannel.onInbound read finish d.coordinator call =
      ((DispatchChannel.onInbound read finish d.coordinator call).1, .ok (written, answer)) := Prod.ext rfl hWritten
  rw [DispatchDesk.step, hInbound] at hStep
  generalize (DispatchChannel.onInbound read finish d.coordinator call).1 = coordinator at hStep hJournals
  cases hStep
  cases hJournals with
  | nothing hSame =>
    cases hSame
    exact ⟨h.session, h.exchanges, h.nextId, h.register, h.carriesOn⟩
  | row row hSession hExchange hNext hCarriesOn =>
    have hRows : rows ⟨coordinator, (row.edrWrites d.coordinator.sessionId).foldl
        (PgDbWriter.write d.coordinator.sessionId)
        (PgDbWriter.write d.coordinator.sessionId d.database (.dispatchTelegram d.coordinator.sessionId row))⟩ =
          d.rows ++ [row] := by
      rw [rows, telegrams_edrWrites, PgDbWriter.write, List.map_append]
      rfl
    rw [List.foldl_cons]
    constructor
    · exact hSession.trans h.session
    · intro pair
      rw [hRows, exchangeOf_concat, ← h.exchanges]
      exact hExchange pair
    · rw [hRows, List.countP_append, hNext, h.nextId]
      split
      · rename_i hOpens
        simp [hOpens, UInt64.ofNat_add, UInt64.add_assoc]
      · rename_i hOther
        simp [hOther]
    · have hSession := h.session
      subst hSession
      rw [hRows, PgDbWriter.edrEntries_writes]
      change (d.database.edrEntries.map fun entry => entry).map _ = _
      rw [List.map_id', h.register, List.map_map]
      refine List.map_congr_left fun entry _ => ?_
      rw [List.flatMap_append, List.foldl_append, List.flatMap_singleton]
      rfl
    · intro before last after hSplit
      rw [hRows] at hSplit
      rcases List.eq_nil_or_concat after with rfl | ⟨after, other, rfl⟩
      · obtain ⟨rfl, hLast⟩ := List.append_inj' hSplit rfl
        cases hLast
        rw [← h.exchanges]
        exact hCarriesOn
      · rw [List.concat_eq_append, ← List.cons_append, ← List.append_assoc] at hSplit
        exact h.carriesOn before last after (List.append_inj' hSplit rfl).1

theorem told_run {calls : List Inbound} (h : run (step read finish) (start sessionUuid entries) calls = some d) :
    Told sessionUuid entries d :=
  invariant (Told sessionUuid entries) (fun _ _ _ hTold hStep => hTold.step hStep) told_start h

theorem step_isSome (d : DispatchDesk) (call : Inbound) : (d.step read finish call).isSome = true := by
  obtain ⟨written, answer, hWritten, -⟩ := onInbound_journals read finish d.coordinator call
  have hInbound : DispatchChannel.onInbound read finish d.coordinator call =
      ((DispatchChannel.onInbound read finish d.coordinator call).1, .ok (written, answer)) := Prod.ext rfl hWritten
  rw [step, hInbound]
  rfl

/-- All that the dispatch keeps can be made again from the table of telegrams: the exchange of each pair, the
identifier to be given next, and the register, each entry with the first departure, the first arrival that no
departure came before, and the latest time of the clear track. No call throws, as the database takes what it is
handed. -/
theorem journal_rebuilds {templates : List TimetableTemplate} {isoWeekday : Int}
    (hSeed : PgDbWriter.seedEdrEntriesForOperatingDay sessionUuid templates isoWeekday = .ok entries)
    (calls : List Inbound) : ∃ d, run (step read finish) (start sessionUuid entries) calls = some d ∧
      (∀ pair, d.coordinator.exchanges.exchange pair = exchangeOf pair d.rows) ∧
      d.coordinator.exchanges.nextId = 1 + UInt64.ofNat (d.rows.countP fun row => row.reaches = some .s2Sent) ∧
      d.database.edrEntries = entries.map fun entry =>
        let writes := d.rows.flatMap (TelegramRow.edrWrites sessionUuid)
        PgDbWriter.entered entry (PgDbWriter.arrival sessionUuid entry writes)
          (PgDbWriter.departure sessionUuid entry writes) (PgDbWriter.trackClear sessionUuid entry writes) := by
  obtain ⟨d, hRun⟩ := exists_run step_isSome (start sessionUuid entries) calls
  have hTold := told_run hRun
  refine ⟨d, hRun, hTold.exchanges, hTold.nextId, ?_⟩
  rw [hTold.register]
  exact List.map_congr_left fun entry hEntry =>
    PgDbWriter.foldl_updateEntry (PgDbWriter.blank_of_seed hSeed entry hEntry) _

/-- Train 100 calls at stations 1 and 2 on a Monday. -/
def mondayTemplates : List TimetableTemplate := [⟨"100", 1, [1]⟩, ⟨"100", 2, [1]⟩]

/-- Station 1 asks station 2 for the line, is granted it, sends the train, and is told of its arrival. -/
def trainCalls : List Inbound :=
  [⟨LineWatch.formPayload 0 0, "", "1", 60⟩, ⟨LineWatch.formPayload 1 1, "", "1", 70⟩,
    ⟨LineWatch.formPayload 0 2, "", "1", 80⟩, ⟨LineWatch.formPayload 1 3, "", "1", 90⟩]

def mondayEntries : List EdrEntry :=
  [{ sessionId := "S", trainNumber := "100", stationUid := 1 },
    { sessionId := "S", trainNumber := "100", stationUid := 2 }]

theorem mondayEntries_eq : PgDbWriter.seedEdrEntriesForOperatingDay "S" mondayTemplates 1 = .ok mondayEntries := rfl

/-- The four telegrams tell that the train has arrived. -/
theorem journal_rebuilds_train : ∃ d,
    run (step LineWatch.readForm fun _ => []) (start "S" mondayEntries) trainCalls = some d ∧
      (exchangeOf ("1", "2") d.rows).status = .s26Received ∧
      d.coordinator.exchanges.exchange ("1", "2") = exchangeOf ("1", "2") d.rows := by
  obtain ⟨d, hRun, hExchanges, -⟩ :=
    @journal_rebuilds LineWatch.readForm (fun _ => []) "S" mondayEntries mondayTemplates 1 mondayEntries_eq trainCalls
  have hLast : (run (step LineWatch.readForm fun _ => []) (start "S" mondayEntries) trainCalls).all (fun d =>
      (exchangeOf ("1", "2") d.rows).status = .s26Received) = true := by decide +kernel
  rw [hRun] at hLast
  exact ⟨d, hRun, of_decide_eq_true hLast, hExchanges _⟩

/-! ## Departures and arrivals -/

/-- The row that brought an exchange to where it stands. -/
theorem exists_last {pair : AreaPair} {rows : List TelegramRow} (h : (exchangeOf pair rows).status ≠ .idle) :
    ∃ before row after, rows = before ++ row :: after ∧ row.pair = pair ∧
      row.reaches = some (exchangeOf pair rows).status ∧ row.exchangeId = (exchangeOf pair rows).exchangeId := by
  induction rows using List.reverseRecOn with
  | nil => exact absurd rfl h
  | append_singleton rows last ih =>
    rw [exchangeOf_concat, TelegramRow.exchangeAfter] at h ⊢
    split at h
    · rename_i hPair
      rw [if_pos hPair]
      cases hReaches : last.reaches with
      | some status => exact ⟨rows, last, [], rfl, hPair, hReaches, rfl⟩
      | none =>
        rw [hReaches] at h
        obtain ⟨before, row, after, rfl, hRest⟩ := ih h
        exact ⟨before, row, after ++ [last], by simp, hRest⟩
    · rename_i hPair
      rw [if_neg hPair]
      obtain ⟨before, row, after, rfl, hRest⟩ := ih h
      exact ⟨before, row, after ++ [last], by simp, hRest⟩

/-- `row` goes on from `earlier`, a row of the same exchange further up. -/
structure GoesOnFrom (rows : List TelegramRow) (earlier : TelegramRow) (status : ExchangeStatus) (row : TelegramRow) :
    Prop where
  above : ∃ before between after, rows = before ++ earlier :: between ++ row :: after
  pair : earlier.pair = row.pair
  exchangeId : earlier.exchangeId = row.exchangeId
  reaches : earlier.reaches = some status

theorem Told.exists_earlier (h : Told sessionUuid entries d) {row : TelegramRow} (hRow : row ∈ d.rows)
    {status before : ExchangeStatus} (hReaches : row.reaches = some status)
    (hBefore : statusBefore status = some before) :
    ∃ earlier ∈ d.rows, GoesOnFrom d.rows earlier before row := by
  obtain ⟨above, below, hSplit⟩ := List.append_of_mem hRow
  obtain ⟨hStatus, hId⟩ := h.carriesOn above row below hSplit status hReaches before hBefore
  have hBegun : (exchangeOf row.pair above).status ≠ .idle := by
    rw [hStatus]
    cases status <;> cases hBefore <;> decide
  obtain ⟨first, earlier, between, rfl, hPair, hEarlier, hSame⟩ := exists_last hBegun
  rw [hStatus] at hEarlier
  refine ⟨earlier, by simp [hSplit], ⟨first, between, below, by simp [hSplit]⟩, hPair, ?_, hEarlier⟩
  rw [hSame, hId]

theorem isFor_spec {trainNumber : String} {stationUid : UInt64} {entry : EdrEntry}
    (h : PgDbWriter.isFor sessionUuid trainNumber stationUid entry = true) :
    trainNumber = entry.trainNumber ∧ stationUid.toInt64 = entry.stationUid := by
  simp only [PgDbWriter.isFor, Bool.and_eq_true, decide_eq_true_eq] at h
  exact ⟨h.1.2.symm, h.2.symm⟩

/-- The row is about the train of the entry at its station, at the time. -/
structure Shown (entry : EdrEntry) (status : ExchangeStatus) (time : Int) (row : TelegramRow) : Prop where
  reaches : row.reaches = some status
  train : row.trainNumber = entry.trainNumber
  station : row.station.toInt64 = entry.stationUid
  time : timeOfDay row.timestampUs = time

theorem shown_of_departure {seeded : EdrEntry} {rows : List TelegramRow} {time : Int}
    (h : PgDbWriter.departure sessionUuid seeded (rows.flatMap (TelegramRow.edrWrites sessionUuid)) = some time) :
    ∃ row ∈ rows, Shown seeded .s25Sent time row := by
  obtain ⟨w, hWrite, hTime⟩ := List.exists_of_findSome?_eq_some h
  obtain ⟨row, hRow, hWrite⟩ := List.mem_flatMap.mp hWrite
  unfold TelegramRow.edrWrites at hWrite
  split at hWrite
  case h_2 hReaches =>
    rw [List.mem_singleton.mp hWrite, PgDbWriter.departsAt] at hTime
    split at hTime
    · rename_i hFor
      obtain ⟨hTrain, hStation⟩ := isFor_spec hFor
      exact ⟨row, hRow, hReaches, hTrain, hStation, Option.some.inj hTime⟩
    · cases hTime
  case h_4 => cases hWrite
  all_goals
    rw [List.mem_singleton.mp hWrite] at hTime
    cases hTime

theorem shown_of_arrival {seeded : EdrEntry} {rows : List TelegramRow} {time : Int}
    (h : PgDbWriter.arrival sessionUuid seeded (rows.flatMap (TelegramRow.edrWrites sessionUuid)) = some time) :
    ∃ row ∈ rows, Shown seeded .s26Received time row := by
  obtain ⟨w, hWrite, hTime⟩ := List.exists_of_findSome?_eq_some h
  obtain ⟨row, hRow, hWrite⟩ := List.mem_flatMap.mp ((List.takeWhile_sublist _).subset hWrite)
  unfold TelegramRow.edrWrites at hWrite
  split at hWrite
  case h_3 hReaches =>
    rw [List.mem_singleton.mp hWrite, PgDbWriter.arrivesAt] at hTime
    split at hTime
    · rename_i hFor
      obtain ⟨hTrain, hStation⟩ := isFor_spec hFor
      exact ⟨row, hRow, hReaches, hTrain, hStation, Option.some.inj hTime⟩
    · cases hTime
  case h_4 => cases hWrite
  all_goals
    rw [List.mem_singleton.mp hWrite] at hTime
    cases hTime

/-- The line was cleared for the departure: there is a grant above it in its exchange, and above that the request. -/
def Cleared (rows : List TelegramRow) (departure : TelegramRow) : Prop :=
  ∃ grant request, GoesOnFrom rows grant .s24Received departure ∧ GoesOnFrom rows request .s2Sent grant

/-- Each departure in the register was sent by the station for the train, and each arrival was received there, after the
line had been asked for and granted in the same exchange; before an arrival there was a departure in it too. -/
theorem register_cleared {templates : List TimetableTemplate} {isoWeekday : Int}
    (hSeed : PgDbWriter.seedEdrEntriesForOperatingDay sessionUuid templates isoWeekday = .ok entries)
    {calls : List Inbound} (h : run (step read finish) (start sessionUuid entries) calls = some d) :
    ∀ entry ∈ d.database.edrEntries,
      (∀ time ∈ entry.actualDeparture, ∃ departure ∈ d.rows, Shown entry .s25Sent time departure ∧
        Cleared d.rows departure) ∧
      ∀ time ∈ entry.actualArrival, ∃ arrival ∈ d.rows, Shown entry .s26Received time arrival ∧
        ∃ departure, GoesOnFrom d.rows departure .s25Sent arrival ∧ Cleared d.rows departure := by
  have hTold := told_run h
  have hCleared : ∀ row ∈ d.rows, row.reaches = some .s25Sent → Cleared d.rows row := by
    intro row hRow hReaches
    obtain ⟨grant, hGrant, hFrom⟩ := hTold.exists_earlier hRow hReaches rfl
    obtain ⟨request, -, hRequest⟩ := hTold.exists_earlier hGrant hFrom.reaches rfl
    exact ⟨grant, request, hFrom, hRequest⟩
  intro entry hEntry
  rw [hTold.register] at hEntry
  obtain ⟨seeded, hSeeded, rfl⟩ := List.mem_map.mp hEntry
  rw [PgDbWriter.foldl_updateEntry (PgDbWriter.blank_of_seed hSeed seeded hSeeded)]
  constructor
  · intro time hTime
    obtain ⟨row, hRow, hReaches, hTrain, hStation, hAt⟩ := shown_of_departure hTime
    exact ⟨row, hRow, ⟨hReaches, hTrain, hStation, hAt⟩, hCleared row hRow hReaches⟩
  · intro time hTime
    obtain ⟨row, hRow, hReaches, hTrain, hStation, hAt⟩ := shown_of_arrival hTime
    obtain ⟨departure, hDeparture, hFrom⟩ := hTold.exists_earlier hRow hReaches rfl
    exact ⟨row, hRow, ⟨hReaches, hTrain, hStation, hAt⟩, departure, hFrom, hCleared departure hDeparture hFrom.reaches⟩

/-- Station 1 sees train 100 off after the line was cleared for it. -/
theorem register_cleared_train : ∃ d entry,
    run (step LineWatch.readForm fun _ => []) (start "S" mondayEntries) trainCalls = some d ∧
      entry ∈ d.database.edrEntries ∧ entry.actualDeparture = some 80 ∧
      ∃ departure ∈ d.rows, Shown entry .s25Sent 80 departure ∧ Cleared d.rows departure := by
  have hTaken : (run (step LineWatch.readForm fun _ => []) (start "S" mondayEntries) trainCalls).any (fun d =>
      d.database.edrEntries.any fun entry => entry.actualDeparture = some 80) = true := by decide +kernel
  obtain ⟨d, hRun, hEntry⟩ := (Option.any_eq_true _ _).mp hTaken
  obtain ⟨entry, hEntry, hTime⟩ := List.any_eq_true.mp hEntry
  have hDeparture := of_decide_eq_true hTime
  exact ⟨d, entry, hRun, hEntry, hDeparture, (register_cleared mondayEntries_eq hRun entry hEntry).1 80 hDeparture⟩

end DispatchDesk

end Symulator.Server
