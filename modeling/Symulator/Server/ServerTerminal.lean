import Symulator.Server.ServerTicks
import Symulator.Server.TerminalSession
import Symulator.Server.TrainIdentity

/-! # The terminal of the server

A third thread reads lines and gives them to the session of the terminal. A command that the session runs decides on the
snapshot published last, and what it decides on is queued in a step of its own: the other threads may come between the
two. Every train there is was asked for in a line of a user who may spawn trains.
-/

namespace Symulator.Server

open Symulator.Library Symulator.Engine Symulator.Srk

set_option autoImplicit false

/-! ## The commands of the terminal -/

/-- What a command finds of the server, and what it leaves there. -/
structure TerminalView (φ : Type) where
  snapshot : Option EngineSnapshot
  requests : List (FleetCommand φ) := []
  threw : Bool := false

/-- The speed is shown with one decimal place. -/
def TrainsCommand.execute (showSpeed : Rat → String) (snapshot : Option EngineSnapshot) : String :=
  match snapshot with
  | none => "world snapshot not available yet"
  | some snap =>
    if snap.trains.isEmpty then "no active trains"
    else
      snap.trains.foldl
        (fun out train => out ++ "\n  uid " ++ toString train.uid.value ++ "  section " ++
          toString train.sectionUid.value ++ "  " ++ showSpeed train.speedKmh ++ " km/h  " ++
          toString train.totalAxles ++ " axles")
        ("active trains (" ++ toString snap.trains.length ++ "):")

section Commands

variable {ν φ : Type} (assemble : AssembleFn ν φ) (fleet : FleetRegistry ν) (showSpeed : Rat → String)

def spawnCommand : TerminalCommand (TerminalView φ) where
  name := "spawn"
  help := "spawn <consist uid|pID> <boundary uid|pID> — spawn a train at a boundary node"
  requiredPermission := .spawn
  execute view args :=
    match SpawnCommand.execute assemble fleet view.snapshot args with
    | .error what => ({ view with threw := true }, what)
    | .ok outcome => ({ view with requests := view.requests ++ outcome.request.toList }, outcome.reply)

def despawnCommand : TerminalCommand (TerminalView φ) where
  name := "despawn"
  help := "despawn <train uid|consist pID> — remove an active train from the world"
  requiredPermission := .despawn
  execute view args :=
    let outcome := DespawnCommand.execute fleet view.snapshot args
    ({ view with requests := view.requests ++ outcome.request.toList }, outcome.reply)

def trainsCommand : TerminalCommand (TerminalView φ) where
  name := "trains"
  help := "trains — list active trains"
  requiredPermission := .logs
  execute view _ := (view, TrainsCommand.execute showSpeed view.snapshot)

def commandRegistry : CommandRegistry (TerminalView φ) where
  commands := [despawnCommand fleet, spawnCommand assemble fleet, trainsCommand showSpeed]
  sorted := show ["despawn", "spawn", "trains"].Pairwise (· < ·) by decide

def requiredFor : FleetCommand φ → Permission
  | .spawn .. => .spawn
  | .despawn _ => .despawn

def wordFor : FleetCommand φ → String
  | .spawn .. => "spawn"
  | .despawn _ => "despawn"

/-- The request is in order by what the snapshot shows: a spawn is of a train that is not there, on a section that is
free and next to the boundary, and a despawn of a train that is there. -/
def InOrder (snap : EngineSnapshot) : FleetCommand φ → Prop
  | .spawn initial fromUid =>
    (∀ train ∈ snap.trains, train.uid ≠ initial.trainUid) ∧
      ∃ sec, snap.trackSections.find initial.currentSectionUid = some sec ∧ sec.occupancy = .free ∧
        (sec.sideA.neighborUid = fromUid ∨ sec.sideB.neighborUid = fromUid)
  | .despawn trainUid => ∃ train ∈ snap.trains, train.uid = trainUid

variable {assemble fleet showSpeed}

/-- What a command of the registry asks for it may ask for under its own name and permission. -/
theorem request_of_command {cmd : TerminalCommand (TerminalView φ)}
    (hCmd : cmd ∈ (commandRegistry assemble fleet showSpeed).commands) {snapshot : Option EngineSnapshot}
    {args : List String} {request : FleetCommand φ} (h : request ∈ (cmd.execute { snapshot } args).1.requests) :
    cmd.name = wordFor request ∧ cmd.requiredPermission = requiredFor request ∧
      ∃ snap, snapshot = some snap ∧ InOrder snap request := by
  simp only [commandRegistry, List.mem_cons, List.not_mem_nil, or_false] at hCmd
  obtain rfl | rfl | rfl := hCmd
  · simp only [despawnCommand, List.nil_append, Option.mem_toList] at h
    obtain ⟨snap, trainUid, hSnap, rfl, hThere⟩ := DespawnCommand.request_of_execute h
    exact ⟨rfl, rfl, snap, hSnap, hThere⟩
  · simp only [spawnCommand] at h
    split at h
    · cases h
    · rename_i outcome hExecute
      rw [List.nil_append, Option.mem_toList] at h
      obtain ⟨snap, initial, fromUid, hSnap, rfl, hAbsent, hFree⟩ := SpawnCommand.request_of_execute hExecute h
      exact ⟨rfl, rfl, snap, hSnap, hAbsent, hFree⟩
  · cases h

end Commands

/-- The server is changed by the command that a line executes, and by nothing else. -/
theorem TerminalSession.processLine_server {σ : Type} (registry : CommandRegistry σ) (users : UserStore σ)
    (s : TerminalSession) (server : σ) (line : String) :
    (s.processLine registry users server line).server =
      (s.processLine registry users server line).executed.elim server fun call => (call.1.execute server call.2).1 := by
  unfold processLine handleLogin
  split
  · rfl
  · split
    · split
      · split <;> rfl
      · rfl
    · split
      · split <;> rfl
      · split
        · rfl
        · split
          · rfl
          · split
            · rfl
            · split <;> rfl

/-! ## The trains there are -/

namespace SessionServer

variable {φ : Type} {dynamics : TrainDynamics φ} {codec : ServerCodec} {s s' : SessionServer φ} {w : World φ}

/-- The fleet commands that the engine has taken. -/
def fleetTaken (s : SessionServer φ) : List (FleetCommand φ) := s.allTicks.flatMap fun t => t.2.fleetCommands

/-- The engine takes a fleet command, or no new train comes. -/
theorem fleetTaken_moves (h : s.Ticking dynamics w) (hMoves : Moves dynamics codec s s') :
    (∃ cmd, s'.fleetTaken = s.fleetTaken ++ [cmd] ∧ s'.world = s.world.attempt dynamics (.fleetCommand cmd)) ∨
    s'.fleetTaken = s.fleetTaken ∧ (trainUids s'.world).Sublist (trainUids s.world) := by
  have hBefore := h.fleet
  have hAfter := (h.moves hMoves).fleet
  have hSame : s'.fleetQueued = s.fleetQueued → s'.fleetCommands = s.fleetCommands → s'.fleetTaken = s.fleetTaken := by
    intro hQueued hLeft
    rw [hQueued, hLeft, ← hBefore] at hAfter
    exact List.append_cancel_right hAfter
  cases hMoves with
  | io | post => exact Or.inr ⟨hSame rfl rfl, List.Sublist.refl _⟩
  | terminal cmd =>
    refine Or.inr ⟨?_, List.Sublist.refl _⟩
    dsimp only at hAfter
    rw [← hBefore, ← List.append_assoc] at hAfter
    exact List.append_cancel_right (List.append_cancel_right hAfter)
  | command =>
    refine Or.inr ⟨hSame rfl rfl, ?_⟩
    change (trainUids (SessionServer.act dynamics _ _).world).Sublist _
    rw [world_act]
    exact trainUids_attempt (by simp)
  | onTick =>
    refine Or.inr ⟨hSame rfl rfl, ?_⟩
    change (trainUids (s.act dynamics .onTick).world).Sublist _
    rw [world_act]
    exact trainUids_attempt (by simp)
  | @fleetCommand cmd fleetCommands hPosting hPhase hQueue =>
    refine Or.inl ⟨cmd, ?_, world_act { s with fleetCommands } (.fleetCommand cmd)⟩
    rw [hQueue] at hBefore
    have hTaken := hAfter.trans hBefore.symm
    rw [← List.singleton_append, ← List.append_assoc] at hTaken
    exact List.append_cancel_right hTaken
  | endTick =>
    refine Or.inr ⟨hSame (by rw [endTick_eq]) (by rw [endTick_eq]), ?_⟩
    rw [world_endTick]
    split
    · exact trainUids_attempt (by simp)
    · exact (trainUids_attempt (by simp)).trans (trainUids_attempt (by simp))
  | report => exact Or.inr ⟨hSame rfl rfl, List.Sublist.refl _⟩

/-- Each train there is stands for a spawn of its own that the engine has taken, and they are in the order of these. -/
theorem trains_run {coordinator : DispatchCoordinator} {actions : List (ServerAction φ)}
    (h : run (step dynamics codec) (start coordinator w) actions = some s) (hEmpty : w.fleet = []) :
    (trainUids s.world).Sublist (spawnUids s.fleetTaken) := by
  induction actions using List.reverseRecOn generalizing s with
  | nil =>
    cases h
    change (w.fleet.map _).Sublist _
    rw [hEmpty]
    exact List.nil_sublist _
  | append_singleton actions a ih =>
    obtain ⟨t, hBefore, hLast⟩ := run_append.mp h
    obtain ⟨s', hStep, hDone⟩ := run_cons.mp hLast
    cases hDone
    have hTrains := ih hBefore
    rcases fleetTaken_moves (ticking_run hBefore) (step_moves hStep) with ⟨cmd, hTaken, hWorld⟩ | ⟨hTaken, hFewer⟩
    · rw [hTaken, hWorld, spawnUids_append]
      cases cmd with
      | spawn initial fromUid =>
        rw [spawnUids_spawn]
        rcases @trainUids_attempt_spawn φ dynamics t.world initial fromUid with ⟨-, hUids⟩ | ⟨-, hUids⟩
        · rw [hUids]
          exact hTrains.append (List.Sublist.refl _)
        · rw [hUids]
          exact hTrains.trans (List.sublist_append_left _ _)
      | despawn trainUid =>
        rw [spawnUids_despawn, List.append_nil]
        exact (trainUids_attempt (by simp)).trans hTrains
    · rw [hTaken]
      exact hFewer.trans hTrains

theorem ticks_step {a : ServerAction φ} (h : s.step dynamics codec a = some s') : s.ticks <+: s'.ticks :=
  ticks_moves (step_moves h)

theorem fleetQueued_step {a : ServerAction φ} (ha : ∀ cmd, a ≠ .terminal cmd) (h : s.step dynamics codec a = some s') :
    s'.fleetQueued = s.fleetQueued := by
  cases a with
  | terminal cmd => exact absurd rfl (ha cmd)
  | io a =>
    simp only [step] at h
    split at h
    · cases h
    · split at h
      · obtain ⟨io, -, rfl⟩ := Option.map_eq_some_iff.mp h
        rfl
      · cases h
  | engine timestampUs =>
    simp only [step] at h
    split at h
    · cases h
    · unfold engineStep at h
      split at h
      · obtain ⟨io, -, rfl⟩ := Option.map_eq_some_iff.mp h
        rfl
      · split at h
        · split at h <;> cases h <;> rfl
        · split at h
          · cases h
            rfl
          · cases h
            rw [endTick_eq]
        · cases h
          rfl

theorem fleetQueued_terminal {cmd : FleetCommand φ} (h : s.step dynamics codec (.terminal cmd) = some s') :
    s'.fleetQueued = s.fleetQueued ++ [cmd] := by
  simp only [step] at h
  split at h
  · cases h
  · cases h
    rfl

end SessionServer

/-! ## The server with its terminal -/

/-- A line that was read: the account it was read for, the snapshot at the time, and what its command decided on. -/
structure TypedLine (φ : Type) where
  text : String
  user : Option UserAccount
  snapshot : Option EngineSnapshot
  requests : List (FleetCommand φ)

/-- What the line read last has decided on waits to be queued. The lines are history. -/
structure TerminalServer (φ : Type) where
  server : SessionServer φ
  session : TerminalSession := {}
  decided : List (FleetCommand φ) := []
  typed : List (TypedLine φ) := []

inductive TerminalServerAction (φ : Type)
  | server (a : ServerAction φ)
  | line (text : String)
  | enqueue

namespace TerminalServer

variable {ν φ : Type}

def start (coordinator : DispatchCoordinator) (world : World φ) : TerminalServer φ where
  server := SessionServer.start coordinator world

/-- What the thread of the terminal runs with. -/
structure Setup (ν φ : Type) where
  assemble : AssembleFn ν φ
  fleet : FleetRegistry ν
  showSpeed : Rat → String
  accounts : List UserAccount

variable (dynamics : TrainDynamics φ) (codec : ServerCodec) (setup : Setup ν φ)

def processLine (t : TerminalServer φ) (text : String) : LineResult (TerminalView φ) :=
  t.session.processLine (commandRegistry setup.assemble setup.fleet setup.showSpeed) (inMemoryUserStore setup.accounts)
    { snapshot := t.server.snapshot } text

/-- The next line is read when the last one is done with. An exception that leaves the thread of the terminal ends the
server. -/
def step (t : TerminalServer φ) : TerminalServerAction φ → Option (TerminalServer φ)
  | .server (.terminal _) => none
  | .server a => (t.server.step dynamics codec a).map fun server => { t with server }
  | .line text =>
    if t.server.io.halted || ! t.decided.isEmpty then none
    else
      let result := t.processLine setup text
      if result.server.threw then none
      else
        some { t with
          session := result.session
          decided := result.server.requests
          typed := t.typed ++ [⟨text, t.session.user, t.server.snapshot, result.server.requests⟩] }
  | .enqueue =>
    match t.decided with
    | [] => none
    | cmd :: decided => (t.server.step dynamics codec (.terminal cmd)).map fun server => { t with server, decided }

variable {dynamics codec setup} {t t' : TerminalServer φ} {a : TerminalServerAction φ}

/-- Either another thread steps, or a line is read, or what it has decided on is queued. -/
theorem step_cases (h : t.step dynamics codec setup a = some t') :
    (∃ b server, (∀ cmd, b ≠ .terminal cmd) ∧ t.server.step dynamics codec b = some server ∧
      t' = { t with server }) ∨
    (∃ text, t.decided = [] ∧ t' = { t with
      session := (t.processLine setup text).session
      decided := (t.processLine setup text).server.requests
      typed := t.typed ++
        [⟨text, t.session.user, t.server.snapshot, (t.processLine setup text).server.requests⟩] }) ∨
    ∃ cmd decided server, t.decided = cmd :: decided ∧ t.server.step dynamics codec (.terminal cmd) = some server ∧
      t' = { t with server, decided } := by
  cases a with
  | server b =>
    cases b with
    | terminal cmd => cases h
    | io b =>
      obtain ⟨server, hStep, rfl⟩ := Option.map_eq_some_iff.mp h
      exact Or.inl ⟨_, server, by simp, hStep, rfl⟩
    | engine timestampUs =>
      obtain ⟨server, hStep, rfl⟩ := Option.map_eq_some_iff.mp h
      exact Or.inl ⟨_, server, by simp, hStep, rfl⟩
  | line text =>
    simp only [step] at h
    split at h
    · cases h
    · rename_i hReady
      split at h
      · cases h
      · cases h
        simp only [Bool.or_eq_true, Bool.not_eq_true', not_or, Bool.not_eq_true, Bool.not_eq_false,
          List.isEmpty_iff] at hReady
        exact Or.inr (Or.inl ⟨text, hReady.2, rfl⟩)
  | enqueue =>
    simp only [step] at h
    split at h
    · cases h
    · rename_i cmd decided hDecided
      obtain ⟨server, hStep, rfl⟩ := Option.map_eq_some_iff.mp h
      exact Or.inr (Or.inr ⟨cmd, decided, server, hDecided, hStep, rfl⟩)

/-- What the three threads do with their terminal, the server does with its terminal's commands. -/
theorem exists_server_run {coordinator : DispatchCoordinator} {w : World φ} {actions : List (TerminalServerAction φ)}
    (h : run (step dynamics codec setup) (start coordinator w) actions = some t) :
    ∃ taken, run (SessionServer.step dynamics codec) (SessionServer.start coordinator w) taken = some t.server := by
  induction actions using List.reverseRecOn generalizing t with
  | nil =>
    cases h
    exact ⟨[], rfl⟩
  | append_singleton actions a ih =>
    obtain ⟨s, hBefore, hLast⟩ := run_append.mp h
    obtain ⟨t', hStep, hDone⟩ := run_cons.mp hLast
    cases hDone
    obtain ⟨taken, hTaken⟩ := ih hBefore
    obtain ⟨b, server, -, hServer, rfl⟩ | ⟨text, -, rfl⟩ | ⟨cmd, decided, server, -, hServer, rfl⟩ := step_cases hStep
    · exact ⟨taken ++ [b], run_append.mpr ⟨s.server, hTaken, run_cons.mpr ⟨server, hServer, rfl⟩⟩⟩
    · exact ⟨taken, hTaken⟩
    · exact ⟨taken ++ [.terminal cmd], run_append.mpr ⟨s.server, hTaken, run_cons.mpr ⟨server, hServer, rfl⟩⟩⟩

/-- The account that the lines leave logged in. -/
def loggedIn (accounts : List UserAccount) (lines : List String) : Option UserAccount :=
  lines.foldl (fun user line => TerminalSession.userAfter (inMemoryUserStore accounts) user () line) none

/-- The user of the line holds the permission for the request, the line asks for it by name, and it was in order by the
snapshot that the line found, which one of the ticks had published. -/
def Allowed (dynamics : TrainDynamics φ) (w : World φ) (ticks : List (World φ × TickInput φ)) (line : TypedLine φ)
    (request : FleetCommand φ) : Prop :=
  (tokenize line.text).head? = some (wordFor request) ∧
    (∃ account, line.user = some account ∧ requiredFor request ∈ account.permissions) ∧
    ∃ snap, line.snapshot = some snap ∧ SessionServer.PublishedIn dynamics w ticks snap ∧ InOrder snap request

/-- What holds of the lines and of what they have asked for. -/
structure Accounted (dynamics : TrainDynamics φ) (setup : Setup ν φ) (w : World φ) (t : TerminalServer φ) : Prop where
  queued : t.server.fleetQueued ++ t.decided = t.typed.flatMap TypedLine.requests
  user : t.session.user = loggedIn setup.accounts (t.typed.map TypedLine.text)
  users : ∀ before line after, t.typed = before ++ line :: after →
    line.user = loggedIn setup.accounts (before.map TypedLine.text)
  allowed : ∀ line ∈ t.typed, ∀ request ∈ line.requests, Allowed dynamics w t.server.ticks line request

variable {w : World φ}

/-- What a line asks for its user may ask for. -/
theorem allowed_processLine (hTicking : t.server.Ticking dynamics w) (text : String) :
    ∀ request ∈ (t.processLine setup text).server.requests, Allowed dynamics w t.server.ticks
      ⟨text, t.session.user, t.server.snapshot, (t.processLine setup text).server.requests⟩ request := by
  intro request hRequest
  rw [processLine, TerminalSession.processLine_server] at hRequest
  cases hExecuted : (t.session.processLine (commandRegistry setup.assemble setup.fleet setup.showSpeed)
      (inMemoryUserStore setup.accounts) { snapshot := t.server.snapshot } text).executed with
  | none =>
    rw [hExecuted] at hRequest
    cases hRequest
  | some call =>
    rw [hExecuted] at hRequest
    obtain ⟨cmd, args⟩ := call
    obtain ⟨account, hUser, hPermission, verb, hWords, hFind⟩ :=
      TerminalSession.exists_user_of_executed _ _ _ _ hExecuted
    obtain ⟨hName, hRequired, snap, hSnap, hInOrder⟩ :=
      request_of_command (List.mem_of_find?_eq_some hFind) hRequest
    have hVerb : cmd.name = verb := of_decide_eq_true (List.find?_some hFind :)
    refine ⟨?_, ⟨account, hUser, hRequired ▸ hPermission⟩, snap, hSnap, hTicking.publishedIn hSnap, hInOrder⟩
    rw [hWords, List.head?_cons, ← hVerb, hName]

theorem Accounted.step (h : Accounted dynamics setup w t) (hTicking : t.server.Ticking dynamics w)
    (hStep : t.step dynamics codec setup a = some t') : Accounted dynamics setup w t' := by
  have hStill : ∀ {server : SessionServer φ} {b : ServerAction φ}, t.server.step dynamics codec b = some server →
      ∀ line ∈ t.typed, ∀ request ∈ line.requests, Allowed dynamics w server.ticks line request := by
    intro server b hServer line hLine request hRequest
    obtain ⟨hWord, hAccount, snap, hSnap, hPublished, hInOrder⟩ := h.allowed line hLine request hRequest
    exact ⟨hWord, hAccount, snap, hSnap, hPublished.mono (SessionServer.ticks_step hServer), hInOrder⟩
  obtain ⟨b, server, hOther, hServer, rfl⟩ | ⟨text, hDone, rfl⟩ | ⟨cmd, decided, server, hDecided, hServer, rfl⟩ :=
    step_cases hStep
  · refine ⟨?_, h.user, h.users, hStill hServer⟩
    rw [SessionServer.fleetQueued_step hOther hServer]
    exact h.queued
  · refine ⟨?_, ?_, ?_, ?_⟩
    · have hQueued := h.queued
      rw [hDone, List.append_nil] at hQueued
      simp only [List.flatMap_append, List.flatMap_singleton, hQueued]
    · have hUser := TerminalSession.processLine_user (commandRegistry setup.assemble setup.fleet setup.showSpeed)
        (inMemoryUserStore setup.accounts) t.session { snapshot := t.server.snapshot } text
      simp only [processLine, hUser, h.user, loggedIn, List.map_append, List.map_cons, List.map_nil, List.foldl_append,
        List.foldl_cons, List.foldl_nil]
      rfl
    · intro before line after hSplit
      rcases List.eq_nil_or_concat after with rfl | ⟨after, last, rfl⟩
      · obtain ⟨rfl, hLine⟩ := List.append_inj' hSplit rfl
        cases hLine
        exact h.user
      · rw [List.concat_eq_append, ← List.cons_append, ← List.append_assoc] at hSplit
        exact h.users before line after (List.append_inj' hSplit rfl).1
    · intro line hLine request hRequest
      rcases List.mem_append.mp hLine with hLine | hLine
      · exact h.allowed line hLine request hRequest
      · cases List.mem_singleton.mp hLine
        exact allowed_processLine hTicking text request hRequest
  · refine ⟨?_, h.user, h.users, hStill hServer⟩
    have hQueued := h.queued
    rw [hDecided] at hQueued
    rw [SessionServer.fleetQueued_terminal hServer, List.append_assoc]
    exact hQueued

theorem accounted_run {coordinator : DispatchCoordinator} {actions : List (TerminalServerAction φ)}
    (h : run (step dynamics codec setup) (start coordinator w) actions = some t) : Accounted dynamics setup w t := by
  induction actions using List.reverseRecOn generalizing t with
  | nil =>
    cases h
    refine ⟨rfl, rfl, fun before line after hSplit => ?_, List.forall_mem_nil _⟩
    cases before <;> cases hSplit
  | append_singleton actions a ih =>
    obtain ⟨s, hBefore, hLast⟩ := run_append.mp h
    obtain ⟨t', hStep, hDone⟩ := run_cons.mp hLast
    cases hDone
    obtain ⟨taken, hTaken⟩ := exists_server_run hBefore
    exact (ih hBefore).step (SessionServer.ticking_run hTaken) hStep

/-- What the terminal has asked of the engine is what its lines asked for, in their order, and each line was typed by
a user who may ask for it, of a snapshot that one of the ticks has published. Each train there is stands for a spawn
of its own among them. -/
theorem trains_authorised {coordinator : DispatchCoordinator} {actions : List (TerminalServerAction φ)}
    (h : run (step dynamics codec setup) (start coordinator w) actions = some t) (hEmpty : w.fleet = []) :
    t.server.fleetQueued ++ t.decided = t.typed.flatMap TypedLine.requests ∧
      (trainUids t.server.world).Sublist (spawnUids (t.typed.flatMap TypedLine.requests)) ∧
      ∀ before line after, t.typed = before ++ line :: after →
        line.user = loggedIn setup.accounts (before.map TypedLine.text) ∧
          ∀ request ∈ line.requests, Allowed dynamics w t.server.ticks line request := by
  have hAccounted := accounted_run h
  obtain ⟨taken, hTaken⟩ := exists_server_run h
  refine ⟨hAccounted.queued, ?_, fun before line after hSplit => ⟨hAccounted.users before line after hSplit, ?_⟩⟩
  · have hTrains := SessionServer.trains_run hTaken hEmpty
    have hFleet := (SessionServer.ticking_run hTaken).fleet
    rw [← hAccounted.queued, ← hFleet, spawnUids_append, spawnUids_append]
    exact hTrains.trans ((List.sublist_append_left _ _).trans (List.sublist_append_left _ _))
  · exact hAccounted.allowed line (by simp [hSplit])

/-- The administrator at the terminal of a server with two boundary nodes. -/
def adminSetup : Setup Unit Unit where
  assemble _ _ := ()
  fleet := oneConsist
  showSpeed _ := ""
  accounts := [defaultAdmin]

/-- After the first tick the administrator logs in and spawns a train, and the next tick takes it. -/
def loginAndSpawn : List (TerminalServerAction Unit) :=
  [.server (.engine 0), .server (.engine 0), .server (.engine 0), .line "login admin admin123", .line "spawn 51 91",
    .enqueue, .server (.engine 0), .server (.engine 0), .server (.engine 0)]

theorem trains_authorised_admin : ∃ t, run (step World.idleTrains SessionServer.stopServer adminSetup)
      (start {} (World.start .ml8 twoEndedStation)) loginAndSpawn = some t ∧
    trainUids t.server.world = [⟨51⟩] ∧
      (trainUids t.server.world).Sublist (spawnUids (t.typed.flatMap TypedLine.requests)) := by
  have hTaken : (run (step World.idleTrains SessionServer.stopServer adminSetup)
      (start {} (World.start .ml8 twoEndedStation))
      loginAndSpawn).any (fun t => trainUids t.server.world = [⟨51⟩]) = true := by decide +kernel
  obtain ⟨t, hRun, hTrain⟩ := (Option.any_eq_true _ _).mp hTaken
  exact ⟨t, hRun, of_decide_eq_true hTrain, (trains_authorised hRun rfl).2.1⟩

end TerminalServer

end Symulator.Server
