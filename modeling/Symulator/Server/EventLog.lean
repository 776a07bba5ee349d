import Symulator.Server.DispatchBus
import Symulator.Server.FrameIntegrity

/-! # The event log

Every domain event that is broadcast is written to the log of the session as well. The row is read off the frame that
went out, byte by byte; the change itself only tells which object it is about.
-/

namespace Symulator.Server

open Symulator.Library Symulator.Engine

set_option autoImplicit false

structure DomainEventRow where
  eventType : Byte := 0
  eventId : BitVec 32 := 0
  timestampUs : BitVec 64 := 0
  objectUid : Option UID := none
  payload : List Byte := []
deriving DecidableEq

def objectUidFromChange : DeviceStateChange → Option UID
  | .signalAspectChange uid .. | .switchPositionChange uid .. | .derailerStateChange uid ..
  | .blockSectionStateChange uid .. | .trackSectionOccupancyChange uid .. | .blockDirectionChange uid ..
  | .axleCounterResetChange uid .. | .operatorCommandStateChange uid .. | .ml8CommandStateChange uid .. => some uid
  | .switchLocked switchUid .. | .switchUnlocked switchUid .. | .switchControlStateChange switchUid .. => some switchUid
  | .routeAdded route => some route.uid
  | .routeRemoved routeUid _ => some routeUid
  | .alarmRaised alarm => some alarm.objectUid
  | .alarmCleared alarmUid => some alarmUid
  | .routeOverlapTimerStarted .. | .emergencyRouteReleaseExecuted .. | .levelCrossingStateChange .. => none

/-- The row of a frame: the fields stand at fixed offsets behind the header. -/
def domainEventRow (frame : List Byte) (change : DeviceStateChange) : DomainEventRow where
  eventType := frame.getD 16 0
  eventId := (frame.getD 17 0).setWidth 32 ||| (frame.getD 18 0).setWidth 32 <<< 8 |||
    (frame.getD 19 0).setWidth 32 <<< 16 ||| (frame.getD 20 0).setWidth 32 <<< 24
  timestampUs := (List.range 8).foldl (fun ts i => ts ||| (frame.getD (21 + i) 0).setWidth 64 <<< (8 * i)) 0
  objectUid := objectUidFromChange change
  payload := frame.drop 29

/-- What the bus hands to the gateway and to the database, in order. -/
inductive BusEffect
  | broadcast (frame : List Byte)
  | writeDomainEvent (row : DomainEventRow)
deriving DecidableEq

section Log

variable (body : DomainEvent → List Byte)

def logStateChanges (bus : DispatchBus) (timestampUs : BitVec 64) :
    List DeviceStateChange → DispatchBus × List BusEffect
  | [] => (bus, [])
  | change :: changes =>
    match makeEventFrame body bus change timestampUs with
    | (bus, none) => logStateChanges bus timestampUs changes
    | (bus, some frame) =>
      -- a row is written where bytes follow the header and the event prefix
      let row := if frame.length > 29 then [BusEffect.writeDomainEvent (domainEventRow frame change)] else []
      let (bus, effects) := logStateChanges bus timestampUs changes
      (bus, .broadcast frame :: (row ++ effects))

/-- One call after another, each with the time it reads off the clock. -/
def logCalls (bus : DispatchBus) : List (BitVec 64 × List DeviceStateChange) → DispatchBus × List BusEffect
  | [] => (bus, [])
  | (timestampUs, changes) :: calls =>
    let (bus, effects) := logStateChanges body bus timestampUs changes
    let (bus, more) := logCalls bus calls
    (bus, effects ++ more)

variable {body}

def BusEffect.frame? : BusEffect → Option (List Byte)
  | .broadcast frame => some frame
  | .writeDomainEvent _ => none

section Calls

variable {bus next : DispatchBus} {change : DeviceStateChange} {timestampUs : BitVec 64}

theorem logStateChanges_none (h : makeEventFrame body bus change timestampUs = (next, none))
    (changes : List DeviceStateChange) :
    logStateChanges body bus timestampUs (change :: changes) = logStateChanges body next timestampUs changes := by
  rw [logStateChanges, h]

theorem logStateChanges_some {frame : List Byte} (h : makeEventFrame body bus change timestampUs = (next, some frame))
    (changes : List DeviceStateChange) :
    logStateChanges body bus timestampUs (change :: changes) =
      ((logStateChanges body next timestampUs changes).1,
        .broadcast frame ::
          ((if frame.length > 29 then [.writeDomainEvent (domainEventRow frame change)] else []) ++
            (logStateChanges body next timestampUs changes).2)) := by
  rw [logStateChanges, h]

end Calls

/-- The log is written beside the broadcast, which it leaves as it is. -/
theorem logStateChanges_broadcasts (bus : DispatchBus) (timestampUs : BitVec 64) (changes : List DeviceStateChange) :
    (logStateChanges body bus timestampUs changes).1 = (onStateChanges body bus timestampUs changes).1 ∧
      (logStateChanges body bus timestampUs changes).2.filterMap BusEffect.frame? =
        (onStateChanges body bus timestampUs changes).2 := by
  induction changes generalizing bus with
  | nil => exact ⟨rfl, rfl⟩
  | cons change changes ih =>
    rcases hFrame : makeEventFrame body bus change timestampUs with ⟨next, _ | frame⟩
    · rw [logStateChanges_none hFrame, onStateChanges, hFrame]
      exact ih next
    · have hRow : (if frame.length > 29 then [BusEffect.writeDomainEvent (domainEventRow frame change)]
          else []).filterMap BusEffect.frame? = [] := by
        split <;> rfl
      rw [logStateChanges_some hFrame, onStateChanges, hFrame]
      refine ⟨(ih next).1, ?_⟩
      simp only [List.filterMap_cons, BusEffect.frame?, List.filterMap_append, hRow, List.nil_append, (ih next).2,
        Option.toList_some, List.singleton_append]

/-! ## What a reader makes of a frame -/

/-- The payload behind the header, as long as the header says. -/
def framePayload (frame : List Byte) : List Byte := (frame.drop kHeaderSize.toNat).take (announcedLen frame).toNat

/-- The event type, the event number and the time before the body of an event. -/
structure EventFields where
  eventType : Byte
  eventId : BitVec 32
  timestampUs : BitVec 64
  body : List Byte

def readEvent (payload : List Byte) : EventFields where
  eventType := payload.getD 0 0
  eventId := leWord 32 ((payload.drop 1).take 4)
  timestampUs := leWord 64 ((payload.drop 5).take 8)
  body := payload.drop 13

/-- The row holds what a reader finds in the frame. A payload within the limit of the decoder is what it decodes. -/
structure Mirrors (frame : List Byte) (row : DomainEventRow) : Prop where
  eventType : row.eventType = (readEvent (framePayload frame)).eventType
  eventId : row.eventId = (readEvent (framePayload frame)).eventId
  timestampUs : row.timestampUs = (readEvent (framePayload frame)).timestampUs
  payload : row.payload = (readEvent (framePayload frame)).body
  decoded : (framePayload frame).length ≤ kMaxPayloadLen.toNat →
    (decodeFrame frame).status = .ok ∧ (decodeFrame frame).frame.payload = framePayload frame

theorem readEvent_prefix (eventType : Byte) (eventId : BitVec 32) (timestampUs : BitVec 64) (bytes : List Byte) :
    readEvent (buildEventPrefix eventType eventId timestampUs ++ bytes) = ⟨eventType, eventId, timestampUs, bytes⟩ := by
  have hId : (((buildEventPrefix eventType eventId timestampUs ++ bytes)).drop 1).take 4 = leBytes 4 eventId := by
    simp [buildEventPrefix]
  have hTime : (((buildEventPrefix eventType eventId timestampUs ++ bytes)).drop 5).take 8 = leBytes 8 timestampUs := by
    simp [buildEventPrefix]
  have hBody : (buildEventPrefix eventType eventId timestampUs ++ bytes).drop 13 = bytes :=
    List.drop_left' (by simp [buildEventPrefix])
  rw [readEvent, hId, hTime, hBody, leWord_leBytes eventId (by decide), leWord_leBytes timestampUs (by decide)]
  rfl

/-- The offsets in the frame are those in the payload, sixteen bytes on. -/
theorem domainEventRow_append {head payload : List Byte} (hHead : head.length = 16) (hPayload : 13 ≤ payload.length)
    (change : DeviceStateChange) : domainEventRow (head ++ payload) change =
      { eventType := (readEvent payload).eventType
        eventId := (readEvent payload).eventId
        timestampUs := (readEvent payload).timestampUs
        objectUid := objectUidFromChange change
        payload := (readEvent payload).body } := by
  have hDrop : ∀ n, (head ++ payload).drop (16 + n) = payload.drop n := by
    intro n
    rw [← hHead, List.drop_append]
    simp
  have hLength : (head ++ payload).length = 16 + payload.length := by rw [List.length_append, hHead]
  have hType : (head ++ payload).getD 16 0 = payload.getD 0 0 := by
    rw [List.getD_append_right _ _ _ _ (by omega), hHead]
  have hId := @foldl_getD 32 (head ++ payload) 17 4 (by omega)
  have hTime := @foldl_getD 64 (head ++ payload) 21 8 (by omega)
  rw [hDrop 1] at hId
  rw [hDrop 5] at hTime
  simp only [domainEventRow, readEvent, hType, hTime, hDrop 13]
  rw [← hId]
  simp [List.range_succ]

theorem exists_head (msgType flags : Byte) (seqId : BitVec 32) {payload : List Byte} (h : payload.length < 2 ^ 32) :
    ∃ head, head.length = 16 ∧ encodeFrame msgType flags seqId payload = head ++ payload := by
  refine ⟨_, ?_, encodeFrame_eq msgType flags seqId h⟩
  simp

theorem framePayload_encodeFrame (msgType flags : Byte) (seqId : BitVec 32) {payload : List Byte}
    (h : payload.length < 2 ^ 32) : framePayload (encodeFrame msgType flags seqId payload) = payload := by
  obtain ⟨head, hHead, hFrame⟩ := exists_head msgType flags seqId h
  have hDrop : (head ++ payload).drop kHeaderSize.toNat = payload := List.drop_left' hHead
  rw [framePayload, announcedLen_encodeFrame, toNat_payloadLen h, hFrame, hDrop, List.take_length]

/-- A finished FlatBuffers buffer begins with the four bytes of its root offset and stays below two gigabytes. -/
def FinishedBuffers (body : DomainEvent → List Byte) : Prop :=
  ∀ event, 4 ≤ (body event).length ∧ (body event).length < 2 ^ 31

theorem mirrors_eventFrame (hBody : FinishedBuffers body) (event : DomainEvent) (eventId seqId : BitVec 32)
    (timestampUs : BitVec 64) (change : DeviceStateChange) {frame : List Byte}
    (hFrame : frame = encodeFrame MsgType.kDomainEvent 0 seqId
      (buildEventPrefix event.eventType eventId timestampUs ++ body event)) :
    frame.length > 29 ∧ Mirrors frame (domainEventRow frame change) ∧
      (domainEventRow frame change).eventId = eventId := by
  obtain ⟨hLeast, hMost⟩ := hBody event
  have hPrefix : (buildEventPrefix event.eventType eventId timestampUs).length = 13 := by simp [buildEventPrefix]
  have hLength : (buildEventPrefix event.eventType eventId timestampUs ++ body event).length =
      13 + (body event).length := by rw [List.length_append, hPrefix]
  have hFits : (buildEventPrefix event.eventType eventId timestampUs ++ body event).length < 2 ^ 32 := by omega
  have hPayload : framePayload frame = buildEventPrefix event.eventType eventId timestampUs ++ body event := by
    rw [hFrame, framePayload_encodeFrame _ _ _ hFits]
  obtain ⟨head, hHead, hSplit⟩ := exists_head MsgType.kDomainEvent 0 seqId hFits
  have hLong : 13 ≤ (buildEventPrefix event.eventType eventId timestampUs ++ body event).length := by omega
  have hRow := domainEventRow_append hHead hLong change
  rw [← hSplit, ← hFrame, ← hPayload] at hRow
  refine ⟨?_, ⟨by rw [hRow], by rw [hRow], by rw [hRow], by rw [hRow], ?_⟩, ?_⟩
  · rw [hFrame, hSplit, List.length_append, hHead]
    omega
  · intro hLimit
    rw [hPayload] at hLimit ⊢
    have hDecoded := decodeFrame_encodeFrame MsgType.kDomainEvent 0 seqId hLimit []
    rw [List.append_nil] at hDecoded
    rw [hFrame, hDecoded]
    exact ⟨rfl, rfl⟩
  · rw [hRow, hPayload, readEvent_prefix]

/-! ## Event numbers -/

/-- The number spent on the change that comes at place `i` of all. -/
def eventIdAt (i : Nat) : BitVec 32 := BitVec.ofNat 32 (i + 1)

theorem eventIdAt_succ (i : Nat) : eventIdAt i + 1 = eventIdAt (i + 1) := (BitVec.ofNat_add (i + 1) 1).symm

theorem toNat_eventIdAt (i : Nat) : (eventIdAt i).toNat = (i + 1) % 2 ^ 32 := BitVec.toNat_ofNat (i + 1) 32

theorem eventIdAt_lt {i j : Nat} (h : i < j) (hWrap : (i + 1) / 2 ^ 32 = (j + 1) / 2 ^ 32) :
    eventIdAt i < eventIdAt j := by
  rw [BitVec.lt_def, toNat_eventIdAt, toNat_eventIdAt]
  omega

/-- A number comes back with the change `2 ^ 32` later. -/
theorem eventIdAt_eq_iff {i j : Nat} (h : i < j) : eventIdAt i = eventIdAt j ↔ 2 ^ 32 ∣ j - i := by
  rw [← BitVec.toNat_inj, toNat_eventIdAt, toNat_eventIdAt]
  omega

/-- The places of the changes that have events. -/
def eventPlaces (start : Nat) (changes : List DeviceStateChange) : List Nat :=
  ((changes.zipIdx start).filter fun placed => (makeEvent placed.1).isSome).map Prod.snd

theorem eventPlaces_none {change : DeviceStateChange} (h : makeEvent change = none) (start : Nat)
    (changes : List DeviceStateChange) : eventPlaces start (change :: changes) = eventPlaces (start + 1) changes := by
  simp [eventPlaces, h]

theorem eventPlaces_some {change : DeviceStateChange} {event : DomainEvent} (h : makeEvent change = some event)
    (start : Nat) (changes : List DeviceStateChange) :
    eventPlaces start (change :: changes) = start :: eventPlaces (start + 1) changes := by
  simp [eventPlaces, h]

theorem eventPlaces_append (start : Nat) (xs ys : List DeviceStateChange) :
    eventPlaces start (xs ++ ys) = eventPlaces start xs ++ eventPlaces (start + xs.length) ys := by
  rw [eventPlaces, List.zipIdx_append, List.filter_append, List.map_append]
  rfl

theorem eventPlaces_sublist (start : Nat) (changes : List DeviceStateChange) :
    (eventPlaces start changes).Sublist (List.range' start changes.length) := by
  rw [eventPlaces, ← List.zipIdx_map_snd start changes]
  exact (List.filter_sublist).map Prod.snd

/-! ## The log of a session -/

/-- Each frame that goes out is followed by its row. The rows mirror their frames and bear the numbers of the changes
they come from. -/
structure Logged (start : Nat) (changes : List DeviceStateChange) (effects : List BusEffect)
    (entries : List (List Byte × DomainEventRow)) : Prop where
  paired : effects = entries.flatMap fun entry => [.broadcast entry.1, .writeDomainEvent entry.2]
  mirrors : ∀ entry ∈ entries, Mirrors entry.1 entry.2
  numbered : entries.map (fun entry => entry.2.eventId) = (eventPlaces start changes).map eventIdAt

theorem Logged.append {start : Nat} {xs ys : List DeviceStateChange} {effects more : List BusEffect}
    {entries rest : List (List Byte × DomainEventRow)} (h : Logged start xs effects entries)
    (hRest : Logged (start + xs.length) ys more rest) :
    Logged start (xs ++ ys) (effects ++ more) (entries ++ rest) := by
  refine ⟨?_, ?_, ?_⟩
  · rw [h.paired, hRest.paired, List.flatMap_append]
  · intro entry hEntry
    rcases List.mem_append.mp hEntry with hEntry | hEntry
    · exact h.mirrors entry hEntry
    · exact hRest.mirrors entry hEntry
  · rw [List.map_append, h.numbered, hRest.numbered, eventPlaces_append, List.map_append]

theorem logged_nil (start : Nat) : Logged start [] [] [] := ⟨rfl, List.forall_mem_nil _, rfl⟩

/-- A change spends the number of its place, and brings one frame and its row where it has an event. -/
theorem logStateChanges_cons (hBody : FinishedBuffers body) {bus : DispatchBus} {start : Nat}
    (hNext : bus.nextEventId = eventIdAt start) (timestampUs : BitVec 64) (change : DeviceStateChange)
    (changes : List DeviceStateChange) :
    ∃ next effects entries, next.nextEventId = eventIdAt (start + 1) ∧ Logged start [change] effects entries ∧
      logStateChanges body bus timestampUs (change :: changes) =
        ((logStateChanges body next timestampUs changes).1,
          effects ++ (logStateChanges body next timestampUs changes).2) := by
  have hSucc : bus.nextEventId + 1 = eventIdAt (start + 1) := by rw [hNext, eventIdAt_succ]
  cases hEvent : makeEvent change with
  | none =>
    have hFrame : makeEventFrame body bus change timestampUs =
        ({ bus with nextEventId := bus.nextEventId + 1 }, none) := by
      simp only [makeEventFrame, hEvent]
    refine ⟨_, [], [], hSucc, ⟨rfl, List.forall_mem_nil _, ?_⟩, logStateChanges_none hFrame changes⟩
    rw [eventPlaces_none hEvent]
    rfl
  | some event =>
    obtain ⟨frame, hBytes⟩ : ∃ frame, frame = encodeFrame MsgType.kDomainEvent 0 bus.txSeq
        (buildEventPrefix event.eventType bus.nextEventId timestampUs ++ body event) := ⟨_, rfl⟩
    have hFrame : makeEventFrame body bus change timestampUs =
        ({ bus with nextEventId := bus.nextEventId + 1, txSeq := bus.txSeq + 1 }, some frame) := by
      simp only [makeEventFrame, hEvent, hBytes]
    obtain ⟨hLong, hMirrors, hId⟩ := mirrors_eventFrame hBody event _ _ timestampUs change hBytes
    have hLog := logStateChanges_some hFrame changes
    rw [if_pos hLong] at hLog
    refine ⟨_, _, [(frame, domainEventRow frame change)], hSucc, ⟨rfl, ?_, ?_⟩, hLog⟩
    · intro entry hEntry
      rw [List.mem_singleton.mp hEntry]
      exact hMirrors
    · rw [eventPlaces_some hEvent, List.map_singleton, hId, hNext]
      rfl

theorem logStateChanges_logged (hBody : FinishedBuffers body) {bus : DispatchBus} {start : Nat}
    (hNext : bus.nextEventId = eventIdAt start) (timestampUs : BitVec 64) (changes : List DeviceStateChange) :
    (logStateChanges body bus timestampUs changes).1.nextEventId = eventIdAt (start + changes.length) ∧
      ∃ entries, Logged start changes (logStateChanges body bus timestampUs changes).2 entries := by
  induction changes generalizing bus start with
  | nil => exact ⟨hNext, [], logged_nil start⟩
  | cons change changes ih =>
    obtain ⟨next, effects, entries, hSucc, hLogged, hLog⟩ := logStateChanges_cons hBody hNext timestampUs change changes
    obtain ⟨hAfter, rest, hRest⟩ := ih hSucc
    rw [hLog]
    refine ⟨?_, entries ++ rest, hLogged.append hRest⟩
    rw [hAfter, List.length_cons, Nat.add_assoc, Nat.add_comm 1]

theorem logCalls_logged (hBody : FinishedBuffers body) {bus : DispatchBus} {start : Nat}
    (hNext : bus.nextEventId = eventIdAt start) (calls : List (BitVec 64 × List DeviceStateChange)) :
    ∃ entries, Logged start (calls.flatMap Prod.snd) (logCalls body bus calls).2 entries := by
  induction calls generalizing bus start with
  | nil => exact ⟨[], logged_nil start⟩
  | cons call calls ih =>
    obtain ⟨hAfter, entries, hLogged⟩ := logStateChanges_logged hBody hNext call.1 call.2
    obtain ⟨rest, hRest⟩ := ih hAfter
    exact ⟨entries ++ rest, hLogged.append hRest⟩

/-- The log of a session mirrors what was broadcast. Its numbers increase until the counter wraps, and a number comes
back exactly with the change a multiple of `2 ^ 32` later. -/
theorem eventLog_mirrors (hBody : FinishedBuffers body) (calls : List (BitVec 64 × List DeviceStateChange)) :
    ∃ entries, Logged 0 (calls.flatMap Prod.snd) (logCalls body {} calls).2 entries ∧
      (eventPlaces 0 (calls.flatMap Prod.snd)).Pairwise (fun i j => i < j ∧
        ((i + 1) / 2 ^ 32 = (j + 1) / 2 ^ 32 → eventIdAt i < eventIdAt j) ∧
        (eventIdAt i = eventIdAt j ↔ 2 ^ 32 ∣ j - i)) ∧
      ((calls.flatMap Prod.snd).length < 2 ^ 32 →
        (entries.map fun entry => entry.2.eventId).Pairwise (fun a b => a < b)) := by
  obtain ⟨entries, hLogged⟩ := @logCalls_logged body hBody {} 0 rfl calls
  have hPlaces := eventPlaces_sublist 0 (calls.flatMap Prod.snd)
  have hOrdered : (eventPlaces 0 (calls.flatMap Prod.snd)).Pairwise (fun i j => i < j) :=
    List.Pairwise.sublist hPlaces List.pairwise_lt_range'
  refine ⟨entries, hLogged, hOrdered.imp fun h => ⟨h, eventIdAt_lt h, eventIdAt_eq_iff h⟩, fun hFew => ?_⟩
  rw [hLogged.numbered, List.pairwise_map]
  refine hOrdered.imp_of_mem fun hi hj h => eventIdAt_lt h ?_
  have hBelow : ∀ i ∈ eventPlaces 0 (calls.flatMap Prod.snd), i + 1 < 2 ^ 32 := by
    intro i hi
    have hRange := List.mem_range'_1.mp (hPlaces.subset hi)
    omega
  rw [Nat.div_eq_of_lt (hBelow _ hi), Nat.div_eq_of_lt (hBelow _ hj)]

end Log

/-! The buffer of a cleared alarm, whose table has one field; every other event is told by an empty table here. -/

def flatBody : DomainEvent → List Byte
  | .alarmCleared alarmUid =>
    [12, 0, 0, 0, 0, 0, 6, 0, 12, 0, 4, 0, 6, 0, 0, 0] ++ leBytes 8 (BitVec.ofNat 64 alarmUid.value)
  | _ => [8, 0, 0, 0, 4, 0, 4, 0, 4, 0, 0, 0]

theorem finishedBuffers_flatBody : FinishedBuffers flatBody := by
  intro event
  cases event <;> simp [flatBody]

theorem eventLog_mirrors_alarm : ∃ entries,
    Logged 0 ([(7, [.axleCounterResetChange ⟨2⟩ .switch, .alarmCleared ⟨1⟩]),
      (9, [.alarmCleared ⟨3⟩])].flatMap Prod.snd)
      (logCalls flatBody {} [(7, [.axleCounterResetChange ⟨2⟩ .switch, .alarmCleared ⟨1⟩]), (9, [.alarmCleared ⟨3⟩])]).2
      entries ∧ (entries.map fun entry => entry.2.eventId).Pairwise (fun a b => a < b) := by
  obtain ⟨entries, hLogged, -, hIncreasing⟩ := eventLog_mirrors finishedBuffers_flatBody
    [(7, [.axleCounterResetChange ⟨2⟩ .switch, .alarmCleared ⟨1⟩]), (9, [.alarmCleared ⟨3⟩])]
  exact ⟨entries, hLogged, hIncreasing (by decide)⟩

def BusEffect.row? : BusEffect → Option DomainEventRow
  | .broadcast _ => none
  | .writeDomainEvent row => some row

theorem Logged.rows {start : Nat} {changes : List DeviceStateChange} {effects : List BusEffect}
    {entries : List (List Byte × DomainEventRow)} (h : Logged start changes effects entries) :
    effects.filterMap BusEffect.row? = entries.map Prod.snd := by
  rw [h.paired, List.filterMap_flatMap]
  exact (List.map_eq_flatMap).symm

theorem eventPlaces_replicate {change : DeviceStateChange} {event : DomainEvent} (h : makeEvent change = some event)
    (start n : Nat) : eventPlaces start (List.replicate n change) = List.range' start n := by
  induction n generalizing start with
  | zero => rfl
  | succ n ih => rw [List.replicate_succ, eventPlaces_some h, ih, List.range'_succ]

theorem eventIds_replicate (n : Nat) :
    ((logCalls flatBody {} (List.replicate n (0, [.alarmCleared ⟨1⟩]))).2.filterMap BusEffect.row?).map
      DomainEventRow.eventId = (List.range n).map eventIdAt := by
  obtain ⟨entries, hLogged⟩ := @logCalls_logged flatBody finishedBuffers_flatBody {} 0 rfl
    (List.replicate n (0, [.alarmCleared ⟨1⟩]))
  have hNumbered := hLogged.numbered
  rw [List.flatMap_replicate, List.flatten_replicate_singleton, eventPlaces_replicate rfl] at hNumbered
  rw [hLogged.rows, List.map_map, List.range_eq_range']
  exact hNumbered

/-- After `2 ^ 32` cleared alarms the next one is logged under the first number again. -/
theorem eventIds_comeBack :
    ¬ (((logCalls flatBody {} (List.replicate (2 ^ 32 + 1) (0, [.alarmCleared ⟨1⟩]))).2.filterMap
      BusEffect.row?).map DomainEventRow.eventId).Nodup := by
  rw [eventIds_replicate]
  intro hNodup
  have hSame : eventIdAt 0 = eventIdAt (2 ^ 32) := (eventIdAt_eq_iff (by decide)).mpr (by decide)
  have hFirst : 0 ∈ List.range (2 ^ 32 + 1) := List.mem_range.mpr (by decide)
  have hLast : 2 ^ 32 ∈ List.range (2 ^ 32 + 1) := List.mem_range.mpr (by decide)
  have hZero := List.inj_on_of_nodup_map hNodup hFirst hLast hSame
  omega

end Symulator.Server
