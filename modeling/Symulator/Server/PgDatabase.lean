import Mathlib.Data.List.TakeWhile
import Symulator.Server.DispatchCoordinator

/-! # The tables of the dispatch

One row for each telegram and one row for each stop of the day in the register of trains. The register is updated in
place: a departure is entered once, an arrival once and not after the departure, a track clear time each time anew.
-/

namespace Symulator.Server

set_option autoImplicit false

inductive EdrStatus
  | pending | arrived | departed | skipped | cancelled
deriving DecidableEq

/-- The times are in microseconds of the day. -/
structure EdrEntry where
  sessionId : String
  trainNumber : String
  stationUid : Int64
  actualArrival : Option Int := none
  actualDeparture : Option Int := none
  trackClearTime : Option Int := none
  status : EdrStatus := .pending
deriving DecidableEq

structure TimetableTemplate where
  trainNumber : String
  stationUid : Int64
  operatingDays : List Int

structure PgDatabase where
  telegrams : List (String × TelegramRow) := []
  edrEntries : List EdrEntry := []

def kUsPerDay : Int := 86400000000

/-- The remainder takes the sign of the timestamp. -/
def timeOfDay (timestampUs : UInt64) : Int := timestampUs.toInt64.toInt.tmod kUsPerDay

/-- The rows for which the condition holds are set anew. -/
def sqlUpdate {ρ : Type} (where_ : ρ → Bool) (set : ρ → ρ) (row : ρ) : ρ := if where_ row then set row else row

namespace PgDbWriter

variable (sessionUuid : String)

def seedEdrEntriesForOperatingDay (templates : List TimetableTemplate) (isoWeekday : Int) :
    Except String (List EdrEntry) :=
  if isoWeekday < 1 ∨ 7 < isoWeekday then .error "[PgDbWriter] invalid ISO weekday; expected 1..7"
  else
    .ok ((templates.filter fun t => isoWeekday ∈ t.operatingDays).map fun t =>
      { sessionId := sessionUuid, trainNumber := t.trainNumber, stationUid := t.stationUid })

def isFor (trainNumber : String) (stationUid : UInt64) (entry : EdrEntry) : Bool :=
  entry.sessionId = sessionUuid && entry.trainNumber = trainNumber && entry.stationUid = stationUid.toInt64

def updateEdrTrackClearTime (trainNumber : String) (stationUid timestampUs : UInt64) : EdrEntry → EdrEntry :=
  sqlUpdate (isFor sessionUuid trainNumber stationUid)
    fun entry => { entry with trackClearTime := some (timeOfDay timestampUs) }

def updateEdrDeparture (trainNumber : String) (stationUid timestampUs : UInt64) : EdrEntry → EdrEntry :=
  sqlUpdate (fun entry => isFor sessionUuid trainNumber stationUid entry && entry.status ≠ .departed)
    fun entry => { entry with actualDeparture := some (timeOfDay timestampUs), status := .departed }

def updateEdrArrival (trainNumber : String) (stationUid timestampUs : UInt64) : EdrEntry → EdrEntry :=
  sqlUpdate (fun entry => isFor sessionUuid trainNumber stationUid entry &&
      (entry.status ≠ .arrived && entry.status ≠ .departed))
    fun entry => { entry with actualArrival := some (timeOfDay timestampUs), status := .arrived }

/-- What a write does to an entry of the register. The writer goes by the session it was opened for. -/
def updateEntry (entry : EdrEntry) : DbWrite → EdrEntry
  | .dispatchTelegram _ _ => entry
  | .edrTrackClearTime _ trainNumber stationUid timestampUs =>
    updateEdrTrackClearTime sessionUuid trainNumber stationUid timestampUs entry
  | .edrDeparture _ trainNumber stationUid timestampUs =>
    updateEdrDeparture sessionUuid trainNumber stationUid timestampUs entry
  | .edrArrival _ trainNumber stationUid timestampUs =>
    updateEdrArrival sessionUuid trainNumber stationUid timestampUs entry

def write (db : PgDatabase) (w : DbWrite) : PgDatabase where
  telegrams :=
    match w with
    | .dispatchTelegram _ row => db.telegrams ++ [(sessionUuid, row)]
    | _ => db.telegrams
  edrEntries := db.edrEntries.map (updateEntry sessionUuid · w)

variable {sessionUuid}

theorem edrEntries_writes (db : PgDatabase) (ws : List DbWrite) :
    (ws.foldl (write sessionUuid) db).edrEntries =
      db.edrEntries.map fun entry => ws.foldl (updateEntry sessionUuid) entry := by
  induction ws generalizing db with
  | nil => exact (List.map_id _).symm
  | cons w ws ih =>
    rw [List.foldl_cons, ih]
    exact List.map_map

/-! ## What becomes of an entry -/

variable (sessionUuid)

/-- The time at which the write has the train of the entry depart from its station. -/
def departsAt (entry : EdrEntry) : DbWrite → Option Int
  | .edrDeparture _ trainNumber stationUid timestampUs =>
    if isFor sessionUuid trainNumber stationUid entry then some (timeOfDay timestampUs) else none
  | _ => none

def arrivesAt (entry : EdrEntry) : DbWrite → Option Int
  | .edrArrival _ trainNumber stationUid timestampUs =>
    if isFor sessionUuid trainNumber stationUid entry then some (timeOfDay timestampUs) else none
  | _ => none

def clearedAt (entry : EdrEntry) : DbWrite → Option Int
  | .edrTrackClearTime _ trainNumber stationUid timestampUs =>
    if isFor sessionUuid trainNumber stationUid entry then some (timeOfDay timestampUs) else none
  | _ => none

/-- An entry with what has been entered; the status says what came last. -/
def entered (seeded : EdrEntry) (arrival departure trackClear : Option Int) : EdrEntry :=
  { seeded with
    actualArrival := arrival
    actualDeparture := departure
    trackClearTime := trackClear
    status := if departure.isSome then .departed else if arrival.isSome then .arrived else .pending }

/-- The first departure. -/
def departure (seeded : EdrEntry) (ws : List DbWrite) : Option Int := ws.findSome? (departsAt sessionUuid seeded)

/-- The first arrival of those that no departure came before. -/
def arrival (seeded : EdrEntry) (ws : List DbWrite) : Option Int :=
  (ws.takeWhile fun w => (departsAt sessionUuid seeded w).isNone).findSome? (arrivesAt sessionUuid seeded)

/-- The latest time at which the track was clear. -/
def trackClear (seeded : EdrEntry) (ws : List DbWrite) : Option Int :=
  (ws.filterMap (clearedAt sessionUuid seeded)).getLast?

variable {sessionUuid} {seeded : EdrEntry} {ws : List DbWrite} {w : DbWrite}

/-- What is found before anything stops the search, with one more to look at. -/
theorem findSome?_takeWhile_concat {α β γ : Type} (stop : α → Option γ) (f : α → Option β) (xs : List α) (x : α) :
    ((xs ++ [x]).takeWhile fun y => (stop y).isNone).findSome? f =
      if ((xs.findSome? stop).or (stop x)).isSome then (xs.takeWhile fun y => (stop y).isNone).findSome? f
      else ((xs.takeWhile fun y => (stop y).isNone).findSome? f).or (f x) := by
  induction xs with
  | nil => cases hx : stop x <;> simp [hx]
  | cons y xs ih =>
    cases hy : stop y with
    | some c => simp [hy]
    | none =>
      simp only [List.cons_append, List.takeWhile_cons, hy, Option.isNone_none, if_true, List.findSome?_cons, ih]
      cases f y with
      | some b => simp
      | none => rfl

theorem departure_concat : departure sessionUuid seeded (ws ++ [w]) =
    (departure sessionUuid seeded ws).or (departsAt sessionUuid seeded w) := by
  simp [departure, List.findSome?_append]

theorem arrival_concat : arrival sessionUuid seeded (ws ++ [w]) =
    if ((departure sessionUuid seeded ws).or (departsAt sessionUuid seeded w)).isSome then arrival sessionUuid seeded ws
    else (arrival sessionUuid seeded ws).or (arrivesAt sessionUuid seeded w) :=
  findSome?_takeWhile_concat _ _ _ _

theorem trackClear_concat : trackClear sessionUuid seeded (ws ++ [w]) =
    (clearedAt sessionUuid seeded w).or (trackClear sessionUuid seeded ws) := by
  rw [trackClear, List.filterMap_append, List.getLast?_append, trackClear]
  cases hClear : clearedAt sessionUuid seeded w <;> simp [hClear]

/-- A write adds to what has been entered what it tells of the entry, if that is still to be entered. -/
theorem updateEntry_entered (seeded : EdrEntry) (arr dep clear : Option Int) (w : DbWrite) :
    updateEntry sessionUuid (entered seeded arr dep clear) w =
      entered seeded
        (if (dep.or (departsAt sessionUuid seeded w)).isSome then arr else arr.or (arrivesAt sessionUuid seeded w))
        (dep.or (departsAt sessionUuid seeded w)) ((clearedAt sessionUuid seeded w).or clear) := by
  have hFor : ∀ trainNumber stationUid, isFor sessionUuid trainNumber stationUid (entered seeded arr dep clear) =
      isFor sessionUuid trainNumber stationUid seeded := fun _ _ => rfl
  cases w with
  | dispatchTelegram sessionId row => simp [updateEntry, departsAt, arrivesAt, clearedAt]
  | edrTrackClearTime sessionId trainNumber stationUid timestampUs =>
    simp only [updateEntry, updateEdrTrackClearTime, sqlUpdate, hFor, departsAt, arrivesAt, clearedAt, Option.or_none,
      ite_self]
    cases isFor sessionUuid trainNumber stationUid seeded <;> rfl
  | edrDeparture sessionId trainNumber stationUid timestampUs =>
    simp only [updateEntry, updateEdrDeparture, sqlUpdate, hFor, departsAt, arrivesAt, clearedAt, Option.or_none,
      Option.none_or, ite_self]
    cases isFor sessionUuid trainNumber stationUid seeded
    · cases dep <;> rfl
    · cases dep <;> cases arr <;> rfl
  | edrArrival sessionId trainNumber stationUid timestampUs =>
    simp only [updateEntry, updateEdrArrival, sqlUpdate, hFor, departsAt, arrivesAt, clearedAt, Option.or_none,
      Option.none_or]
    cases isFor sessionUuid trainNumber stationUid seeded
    · cases dep <;> cases arr <;> rfl
    · cases dep <;> cases arr <;> rfl

/-- An entry in which nothing has been entered. -/
def Blank (seeded : EdrEntry) : Prop := seeded = entered seeded none none none

/-- Whatever is written, an entry shows the first departure, the first arrival that no departure came before, and the
latest time of the clear track. -/
theorem foldl_updateEntry (h : Blank seeded) (ws : List DbWrite) : ws.foldl (updateEntry sessionUuid) seeded =
    entered seeded (arrival sessionUuid seeded ws) (departure sessionUuid seeded ws)
      (trackClear sessionUuid seeded ws) := by
  induction ws using List.reverseRecOn with
  | nil => exact h
  | append_singleton ws w ih =>
    rw [List.foldl_append, List.foldl_cons, List.foldl_nil, ih, updateEntry_entered, arrival_concat, departure_concat,
      trackClear_concat]

/-- The day starts with nothing entered. -/
theorem blank_of_seed {templates : List TimetableTemplate} {isoWeekday : Int} {entries : List EdrEntry}
    (h : seedEdrEntriesForOperatingDay sessionUuid templates isoWeekday = .ok entries) :
    ∀ entry ∈ entries, Blank entry := by
  unfold seedEdrEntriesForOperatingDay at h
  split at h
  · cases h
  · cases h
    intro entry hEntry
    obtain ⟨template, -, rfl⟩ := List.mem_map.mp hEntry
    rfl

end PgDbWriter

end Symulator.Server
