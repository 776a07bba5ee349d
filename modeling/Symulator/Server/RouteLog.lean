import Symulator.Server.CommandVerdicts

/-! # Routes and the commands that set them

Nothing but commands of clients sets or takes away a route. So the routes that stand can be read off the log of the
commands taken and not refused: each request adds its route over the path of the loaded topology, each cancellation
strikes one out, and the ticks and the trains change nothing in the table.
-/

namespace Symulator.Server

open Symulator.Library Symulator.Engine Symulator.Srk

set_option autoImplicit false

section Table

variable {φ : Type} {dynamics : TrainDynamics φ}

/-- What an accepted command does to the routes; the path is looked up in `s₀`. -/
def routesAfter (s₀ : EngineState) (routes : KeyedMap UID RouteState) (entry : World φ × Command) :
    KeyedMap UID RouteState :=
  match entry.2 with
  | .requestRoute cmd =>
    match findRoutePath s₀ cmd.fromSignalUid cmd.toSignalUid kPolicies with
    | some rp => routes.emplace (newRoute cmd entry.1.state.currentTick rp)
    | none => routes
  | .cancelRoute cmd => routes.erase cmd.routeUid
  | _ => routes

/-- A command that is not refused does to the routes what the log says. -/
theorem routes_attempt_command {w : World φ} {s₀ : EngineState} (hTopology : w.state.topology = s₀.topology)
    {cmd : Command} (hAccepted : violationOf (w, cmd) = none) :
    (w.attempt dynamics (.command cmd)).state.routes = routesAfter s₀ w.state.routes (w, cmd) := by
  have hStep : ∃ w', w.step dynamics (.command cmd) = some w' := by
    have hCheck : w.control.checkCommand w.state cmd = none := hAccepted
    exact ⟨_, World.step_command.mpr ⟨hCheck, rfl⟩⟩
  obtain ⟨w', hStep⟩ := hStep
  rw [World.attempt, hStep, Option.getD_some]
  cases stepEffect_of_step hStep with
  | command _ hKind hCheck hState =>
    rw [hState, routes_changesOf _ _ hKind]
    cases cmd
    case requestRoute | cancelRoute => cases hKind
    all_goals rfl
  | request cmd rp hGranted hState =>
    rw [hState, routes_request hGranted.found]
    simp only [routesAfter, ← findRoutePath_topology hTopology, hGranted.found]
  | cancel cmd route hFind hState => rw [hState, routes_cancel hFind]; rfl
  | other _ hCommand => exact absurd rfl (hCommand cmd)

/-- Besides commands nothing does anything to the routes. -/
theorem routes_attempt_other {w : World φ} (h : RoutesRequested w.state) {a : Action φ} (ha : ∀ cmd, a ≠ .command cmd) :
    (w.attempt dynamics a).state.routes = w.state.routes := by
  cases hStep : w.step dynamics a with
  | none => rw [World.attempt, hStep, Option.getD_none]
  | some w' =>
    rw [World.attempt, hStep, Option.getD_some]
    cases stepEffect_of_step hStep with
    | command cmd => exact absurd rfl (ha cmd)
    | request cmd => exact absurd rfl (ha _)
    | cancel cmd => exact absurd rfl (ha _)
    | tick hState => rw [hState, h.routes_onTick]
    | other _ hCommand hTick hSame => rw [hSame.routes]

theorem reachable_attempt {w : World φ} (h : w.Reachable dynamics) (a : Action φ) :
    (w.attempt dynamics a).Reachable dynamics := by
  cases hStep : w.step dynamics a with
  | none =>
    rw [World.attempt, hStep, Option.getD_none]
    exact h
  | some w' =>
    rw [World.attempt, hStep, Option.getD_some]
    obtain ⟨w₀, actions, hLoaded, hRun⟩ := h
    exact ⟨w₀, actions ++ [a], hLoaded, run_append.mpr ⟨w, hRun, run_cons.mpr ⟨w', hStep, rfl⟩⟩⟩

end Table

namespace SessionServer

variable {φ : Type} (dynamics : TrainDynamics φ)

/-- The commands that were not refused. -/
def acceptedLog (s : SessionServer φ) : List (World φ × Command) :=
  (s.commandLog dynamics).filter fun p => (violationOf p).isNone

variable {dynamics} {codec : ServerCodec} {s s' : SessionServer φ} {coordinator : DispatchCoordinator} {w : World φ}
  {actions : List (ServerAction φ)}

/-- The routes are those the log leads to. -/
def RoutesLogged (dynamics : TrainDynamics φ) (w : World φ) (s : SessionServer φ) : Prop :=
  s.world.state.routes = (s.acceptedLog dynamics).foldl (routesAfter w.state) .empty

theorem RoutesLogged.moves (h : RoutesLogged dynamics w s) (hTicking : s.Ticking dynamics w)
    (hReachable : s.world.Reachable dynamics) (hTopology : s.world.state.topology = w.state.topology)
    (hMoves : Moves dynamics codec s s') : RoutesLogged dynamics w s' := by
  have hRequested := routesRequested_of_reachable hReachable
  rcases hTicking.commandLog_moves hMoves with ⟨processed, next, cmdQueue, -, rfl, hLog⟩ | ⟨hLog, hTaken⟩
  · have hWorld : ({ s with cmdQueue }.takeCommand dynamics codec processed next).world =
        s.world.attempt dynamics (.command next.2.payload) := world_act { s with cmdQueue } _
    rw [RoutesLogged, hWorld, acceptedLog, hLog, List.filter_append, List.foldl_append, ← acceptedLog, ← h]
    cases hViolation : violationOf (s.world, next.2.payload) with
    | none =>
      rw [routes_attempt_command hTopology hViolation, List.filter_cons_of_pos (by rw [hViolation]; rfl)]
      rfl
    | some v =>
      rw [attempt_of_refused _ (by rw [hViolation]; rfl),
        List.filter_cons_of_neg (by rw [hViolation]; exact Bool.false_ne_true)]
      rfl
  · have hSame : s'.world.state.routes = s.world.state.routes → RoutesLogged dynamics w s' := by
      intro hRoutes
      rw [RoutesLogged, hRoutes, acceptedLog, hLog]
      exact h
    cases hMoves with
    | io | post | terminal => exact hSame rfl
    | command => exact absurd (congrArg List.length hTaken) (by simp [takeCommand])
    | onTick =>
      refine hSame ?_
      change (s.act dynamics .onTick).world.state.routes = _
      rw [world_act, routes_attempt_other hRequested (by intro cmd hCmd; cases hCmd)]
    | @fleetCommand cmd fleetCommands =>
      refine hSame ?_
      change (({ s with fleetCommands } : SessionServer φ).act dynamics (.fleetCommand cmd)).world.state.routes = _
      rw [world_act, routes_attempt_other hRequested (by intro cmd hCmd; cases hCmd)]
    | endTick =>
      refine hSame ?_
      rw [world_endTick]
      split
      · exact routes_attempt_other hRequested (by intro cmd hCmd; cases hCmd)
      · have hAfter := routesRequested_of_reachable (reachable_attempt hReachable .tickTrains)
        rw [routes_attempt_other hAfter (by intro cmd hCmd; cases hCmd),
          routes_attempt_other hRequested (by intro cmd hCmd; cases hCmd)]
    | report => exact hSame rfl

theorem reachable_run (h : run (step dynamics codec) (start coordinator w) actions = some s) (hLoaded : w.Loaded) :
    s.world.Reachable dynamics ∧ s.world.state.topology = w.state.topology := by
  obtain ⟨taken, hTaken⟩ := (ticking_run h).exists_run
  refine ⟨⟨w, taken, hLoaded, hTaken⟩, ?_⟩
  refine invariant (fun v : World φ => v.state.topology = w.state.topology) ?_ rfl hTaken
  intro v a v' hv hStep
  rw [World.topology_step hStep, hv]

theorem routesLogged_run (h : run (step dynamics codec) (start coordinator w) actions = some s) (hLoaded : w.Loaded) :
    RoutesLogged dynamics w s := by
  induction actions using List.reverseRecOn generalizing s with
  | nil =>
    cases h
    obtain ⟨dirs, results, hLoad⟩ := hLoaded
    exact (fresh_of_loadWorld hLoad).routes
  | append_singleton actions a ih =>
    obtain ⟨t, hBefore, hLast⟩ := run_append.mp h
    obtain ⟨s', hStep, hDone⟩ := run_cons.mp hLast
    cases hDone
    obtain ⟨hReachable, hTopology⟩ := reachable_run hBefore hLoaded
    exact (ih hBefore).moves (ticking_run hBefore) hReachable hTopology (step_moves hStep)

/-- Each route in the table was asked for by one of the commands. -/
theorem exists_request (s₀ : EngineState) (entries : List (World φ × Command)) :
    ∀ route ∈ (entries.foldl (routesAfter s₀) .empty).values, ∃ entry ∈ entries, ∃ cmd rp,
      entry.2 = .requestRoute cmd ∧ route = newRoute cmd entry.1.state.currentTick rp := by
  induction entries using List.reverseRecOn with
  | nil => exact List.forall_mem_nil _
  | append_singleton entries entry ih =>
    have hOld : ∀ route ∈ (entries.foldl (routesAfter s₀) .empty).values, ∃ e ∈ entries ++ [entry], ∃ cmd rp,
        e.2 = .requestRoute cmd ∧ route = newRoute cmd e.1.state.currentTick rp := by
      intro route hBefore
      obtain ⟨e, he, hRequest⟩ := ih route hBefore
      exact ⟨e, List.mem_append_left _ he, hRequest⟩
    rw [List.foldl_append, List.foldl_cons, List.foldl_nil]
    unfold routesAfter
    split
    · rename_i cmd hCmd
      split
      · rename_i rp hFound
        exact KeyedMap.forall_emplace hOld ⟨entry, by simp, cmd, rp, hCmd, rfl⟩
      · exact hOld
    · exact fun route h => hOld route (List.mem_of_mem_filter h)
    · exact hOld

/-- The routes that stand are those that the accepted commands have set and not taken away, and each was asked for in a
frame of a client. -/
theorem routes_fromLog (h : run (step dynamics codec) (start coordinator w) actions = some s) (hLoaded : w.Loaded) :
    s.world.state.routes = (s.acceptedLog dynamics).foldl (routesAfter w.state) .empty ∧
      ∀ route ∈ s.world.state.routes.values, ∃ (session : Nat) (c : Connection Command) (cmdMeta : CommandMeta)
        (cmd : RequestRouteCmd), s.io.state.connections[session]? = some c ∧
          Authored codec.gateway.session c.handled cmdMeta (.requestRoute cmd) ∧
          route.fromSignalUid = cmd.fromSignalUid ∧ route.toSignalUid = cmd.toSignalUid := by
  have hLogged := routesLogged_run h hLoaded
  refine ⟨hLogged, fun route hRoute => ?_⟩
  rw [hLogged] at hRoute
  obtain ⟨entry, hEntry, cmd, rp, hCmd, rfl⟩ := exists_request w.state _ route hRoute
  have hTaken : Command.requestRoute cmd ∈ s.taken.map fun e => e.2.payload := by
    rw [← (ticking_run h).map_snd_commandLog, ← hCmd]
    exact List.mem_map_of_mem (List.mem_of_mem_filter hEntry)
  obtain ⟨⟨session, env⟩, hIn, hPayload⟩ := List.mem_map.mp hTaken
  have hPushed : (session, env) ∈ s.io.state.pushed := by
    rw [← (inLine_run h).order]
    exact List.mem_append_left _ hIn
  have hQueued := queued_run h
  have hThere := hQueued.accepted _ hPushed
  refine ⟨session, s.io.state.connections[session], env.cmdMeta, cmd, List.getElem?_eq_getElem hThere, ?_, rfl, rfl⟩
  have hEnv : env ∈ queuedBy session s.io.state.pushed :=
    List.mem_map.mpr ⟨(session, env), List.mem_filter.mpr ⟨hPushed, decide_eq_true rfl⟩, rfl⟩
  rw [hQueued.bySession session _ (List.getElem?_eq_getElem hThere)] at hEnv
  have hAuthored := authored_of_mem h (List.getElem?_eq_getElem hThere) hEnv
  rwa [show env.payload = .requestRoute cmd from hPayload] at hAuthored

/-- A server for player A, whose every command is to set the route over the diverging leg. -/
def routeServer : ServerCodec :=
  { stopServer with gateway := { plainGateway with session :=
    { plainGateway.session with
      parsePayload := fun _ => some (.requestRoute { fromSignalUid := ⟨21⟩, toSignalUid := ⟨23⟩ }) } } }

/-- The route stands that player A has asked for. -/
theorem routes_fromLog_fork : ∃ s route, run (step World.idleTrains routeServer)
    (start {} (World.start .ml8 forkStation))
      joinAndCommand = some s ∧ route ∈ s.world.state.routes.values ∧
    ∃ (session : Nat) (c : Connection Command) (cmdMeta : CommandMeta) (cmd : RequestRouteCmd),
      s.io.state.connections[session]? = some c ∧
        Authored routeServer.gateway.session c.handled cmdMeta (.requestRoute cmd) ∧
        route.fromSignalUid = cmd.fromSignalUid ∧ route.toSignalUid = cmd.toSignalUid := by
  have hTaken : (run (step World.idleTrains routeServer) (start {} (World.start .ml8 forkStation)) joinAndCommand).any
      (fun s => ! s.world.state.routes.values.isEmpty) = true := by decide +kernel
  obtain ⟨s, hRun, hRoutes⟩ := (Option.any_eq_true _ _).mp hTaken
  obtain ⟨route, hRoute⟩ := List.exists_mem_of_ne_nil _ (by simpa using hRoutes)
  exact ⟨s, route, hRun, hRoute, (routes_fromLog hRun ⟨[forkStation], _, rfl⟩).2 route hRoute⟩

end SessionServer

end Symulator.Server
