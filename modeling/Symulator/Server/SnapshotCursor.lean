import Symulator.Library.NumberedBatches
import Symulator.Server.SnapshotService
import Symulator.Srk.ChangeReport
import Symulator.Srk.LockAgreement

/-! # The cursor of a snapshot

A snapshot is sent with a cursor, by which the client drops the event frames it already contains. The cursor
is the tick of the snapshot; the frames are numbered by the dispatch bus, one for each event.
-/

namespace Symulator.Server

open Symulator.Library Symulator.Engine Symulator.Srk

set_option autoImplicit false

structure ServerState (φ : Type) where
  world : World φ
  bus : DispatchBus := {}

structure TickInput (φ : Type) where
  queue : List Command := []
  fleetCommands : List (FleetCommand φ) := []
  timestampUs : BitVec 64 := 0

/-- What leaves the server in a tick: the published snapshot and the frames broadcast. -/
structure TickOutput where
  snapshot : EngineSnapshot
  frames : List (List Byte)

section Serve

variable {φ : Type} (body : DomainEvent → List Byte) (dynamics : TrainDynamics φ)

def serverTick (s : ServerState φ) (input : TickInput φ) : ServerState φ × TickOutput :=
  let (world, changes) := s.world.doTickListed dynamics input.queue input.fleetCommands
  let (bus, frames) := onStateChanges body s.bus input.timestampUs changes
  ({ world, bus }, { snapshot := publish dynamics world.state world.fleet, frames })

def serve : ServerState φ → List (TickInput φ) → List TickOutput
  | _, [] => []
  | s, input :: inputs =>
    let (s, output) := serverTick body dynamics s input
    output :: serve s inputs

/-- The number of events in each tick of a run. -/
def eventCounts : World φ → List (TickInput φ) → List Nat
  | _, [] => []
  | w, input :: inputs =>
    let (w, changes) := w.doTickListed dynamics input.queue input.fleetCommands
    (changes.filterMap makeEvent).length :: eventCounts w inputs

/-- The cursor of every snapshot is at least the number of every frame sent by then, and less than the number
of every frame sent later. -/
def CursorParts (outputs : List TickOutput) : Prop :=
  ∀ before output after, outputs = before ++ output :: after →
    (∀ frame ∈ (before ++ [output]).flatMap TickOutput.frames,
      frameSeqId frame ≤ (serialize output.snapshot).seqCursor) ∧
    ∀ frame ∈ after.flatMap TickOutput.frames, (serialize output.snapshot).seqCursor < frameSeqId frame

variable {body dynamics}

/-- A change list is numbered on from where the bus stands. -/
theorem onStateChanges_spec (bus : DispatchBus) (timestampUs : BitVec 64) (changes : List DeviceStateChange) :
    (onStateChanges body bus timestampUs changes).1.txSeq =
        bus.txSeq + BitVec.ofNat 32 (changes.filterMap makeEvent).length ∧
      (onStateChanges body bus timestampUs changes).2.map frameSeqId =
        (List.range (changes.filterMap makeEvent).length).map fun j => bus.txSeq + BitVec.ofNat 32 j := by
  induction changes generalizing bus with
  | nil => simp [onStateChanges]
  | cons change changes ih =>
    cases hEvent : makeEvent change with
    | none =>
      have hFrame : makeEventFrame body bus change timestampUs =
          ({ bus with nextEventId := bus.nextEventId + 1 }, none) := by simp [makeEventFrame, hEvent]
      simp only [onStateChanges, hFrame, List.filterMap_cons_none hEvent, Option.toList_none, List.nil_append]
      exact ih _
    | some event =>
      obtain ⟨hSeq, hFrames⟩ := ih { nextEventId := bus.nextEventId + 1, txSeq := bus.txSeq + 1 }
      simp only [onStateChanges, makeEventFrame, hEvent, List.filterMap_cons_some hEvent, List.length_cons,
        Option.toList_some, List.singleton_append, List.map_cons, frameSeqId_encodeFrame, hSeq, hFrames]
      have hNext : ∀ j, bus.txSeq + 1 + BitVec.ofNat 32 j = bus.txSeq + BitVec.ofNat 32 (j + 1) := by
        intro j
        bv_omega
      constructor
      · exact hNext _
      · rw [List.range_succ_eq_map, List.map_cons, List.map_map]
        exact congrArg₂ List.cons (BitVec.add_zero _).symm (List.map_congr_left fun j _ => hNext j)

theorem length_serve (s : ServerState φ) (inputs : List (TickInput φ)) :
    (serve body dynamics s inputs).length = inputs.length ∧
      (eventCounts dynamics s.world inputs).length = inputs.length := by
  induction inputs generalizing s with
  | nil => exact ⟨rfl, rfl⟩
  | cons input inputs ih =>
    obtain ⟨hOutputs, hCounts⟩ := ih (serverTick body dynamics s input).1
    exact ⟨congrArg (· + 1) hOutputs, congrArg (· + 1) hCounts⟩

theorem map_frameSeqId_serve (s : ServerState φ) (inputs : List (TickInput φ)) :
    ((serve body dynamics s inputs).flatMap TickOutput.frames).map frameSeqId =
      (List.range (eventCounts dynamics s.world inputs).sum).map fun j => s.bus.txSeq + BitVec.ofNat 32 j := by
  induction inputs generalizing s with
  | nil => rfl
  | cons input inputs ih =>
    let ticked := s.world.doTickListed dynamics input.queue input.fleetCommands
    obtain ⟨hSeq, hFrames⟩ := @onStateChanges_spec body s.bus input.timestampUs ticked.2
    have hRest := ih (serverTick body dynamics s input).1
    change _ = (List.range ((ticked.2.filterMap makeEvent).length + (eventCounts dynamics ticked.1 inputs).sum)).map _
    rw [List.range_add, List.map_append, List.map_map, ← hFrames]
    change ((onStateChanges body s.bus input.timestampUs ticked.2).2 ++
      (serve body dynamics (serverTick body dynamics s input).1 inputs).flatMap TickOutput.frames).map frameSeqId = _
    rw [List.map_append, hRest]
    congr 1
    refine List.map_congr_left fun j _ => ?_
    change (onStateChanges body s.bus input.timestampUs ticked.2).1.txSeq + _ = _
    rw [hSeq, Function.comp_apply, BitVec.add_assoc, ← BitVec.ofNat_add]

theorem currentTick_doTickListed (w : World φ) (queue : List Command) (fleetCommands : List (FleetCommand φ)) :
    (w.doTickListed dynamics queue fleetCommands).1.state.currentTick = w.state.currentTick + 1 := by
  rw [(World.doTickListed_eq w queue fleetCommands rfl).2, EngineState.setCurrentTick,
    ← World.beforeTrains_replays w queue fleetCommands, currentTick_applyAll]

theorem seqCursor_serve (s : ServerState φ) {inputs : List (TickInput φ)} {before after : List TickOutput}
    {output : TickOutput} (h : serve body dynamics s inputs = before ++ output :: after) :
    (serialize output.snapshot).seqCursor = BitVec.ofNat 32 (s.world.state.currentTick + before.length + 1) := by
  induction inputs generalizing s before with
  | nil => simp [serve] at h
  | cons input inputs ih =>
    have hTick := @currentTick_doTickListed φ dynamics s.world input.queue input.fleetCommands
    cases before with
    | nil =>
      obtain ⟨hOutput, -⟩ := List.cons.inj h
      rw [← hOutput]
      change BitVec.ofNat 32 (s.world.doTickListed dynamics input.queue input.fleetCommands).1.state.currentTick = _
      rw [hTick]
      rfl
    | cons first before =>
      obtain ⟨-, hRest⟩ := List.cons.inj h
      rw [ih _ hRest]
      change BitVec.ofNat 32 ((s.world.doTickListed dynamics input.queue input.fleetCommands).1.state.currentTick +
        before.length + 1) = _
      rw [hTick, List.length_cons]
      congr 1
      omega

theorem serve_take (s : ServerState φ) (inputs : List (TickInput φ)) (n : Nat) :
    serve body dynamics s (inputs.take n) = (serve body dynamics s inputs).take n ∧
      eventCounts dynamics s.world (inputs.take n) = (eventCounts dynamics s.world inputs).take n := by
  induction inputs generalizing s n with
  | nil => simp [serve, eventCounts]
  | cons input inputs ih =>
    cases n with
    | zero => exact ⟨rfl, rfl⟩
    | succ n =>
      obtain ⟨hOutputs, hCounts⟩ := ih (serverTick body dynamics s input).1 n
      exact ⟨congrArg (_ :: ·) hOutputs, congrArg (_ :: ·) hCounts⟩

theorem map_frameSeqId_parts (s : ServerState φ) (hBus : s.bus.txSeq = 0) {inputs : List (TickInput φ)}
    {before after : List TickOutput} {output : TickOutput}
    (h : serve body dynamics s inputs = before ++ output :: after) {k total : Nat}
    (hk : k = itemsUpTo (eventCounts dynamics s.world inputs) (before.length + 1))
    (hTotal : total = (eventCounts dynamics s.world inputs).sum) :
    ((before ++ [output]).flatMap TickOutput.frames).map frameSeqId = (List.range k).map (BitVec.ofNat 32) ∧
      (after.flatMap TickOutput.frames).map frameSeqId =
        (List.range (total - k)).map fun j => BitVec.ofNat 32 (k + j) := by
  have hZero : (fun j => (0 : BitVec 32) + BitVec.ofNat 32 j) = BitVec.ofNat 32 := by
    funext j
    exact BitVec.zero_add _
  obtain ⟨hOutputs, hCounts⟩ := @serve_take φ body dynamics s inputs (before.length + 1)
  have hFirst := @map_frameSeqId_serve φ body dynamics s (inputs.take (before.length + 1))
  have hAll := @map_frameSeqId_serve φ body dynamics s inputs
  have hTake : (before ++ output :: after).take (before.length + 1) = before ++ [output] := by
    rw [List.append_cons]
    exact List.take_left' (by simp)
  rw [hOutputs, h, hTake, hCounts, hBus, hZero] at hFirst
  rw [hBus, hZero, h, List.append_cons, List.flatMap_append, List.map_append] at hAll
  have hLe := itemsUpTo_le_sum (eventCounts dynamics s.world inputs) (before.length + 1)
  rw [← hk, ← hTotal] at hLe
  rw [hFirst, ← itemsUpTo, ← hk, ← hTotal, ← Nat.add_sub_cancel' hLe, List.range_add, List.map_append,
    List.map_map] at hAll
  exact ⟨by rw [hFirst, ← itemsUpTo, hk], List.append_cancel_left hAll⟩

end Serve

/-- The cursors part the frames of a run when, until the last event, the tick `n` ends with `n + 1` events sent:
two events in the first tick and one in each later one. -/
theorem cursor_parts_iff {φ : Type} {dynamics : TrainDynamics φ} {w : World φ} (hLoaded : w.Loaded)
    (body : DomainEvent → List Byte) (inputs : List (TickInput φ)) :
    CursorParts (serve body dynamics { world := w } inputs) ↔ ∀ n, 1 ≤ n → n ≤ inputs.length →
      itemsUpTo (eventCounts dynamics w inputs) n ≤ n % 2 ^ 32 + 1 ∧
        (itemsUpTo (eventCounts dynamics w inputs) n < (eventCounts dynamics w inputs).sum →
          n % 2 ^ 32 < itemsUpTo (eventCounts dynamics w inputs) n) := by
  obtain ⟨hOutputs, hCounts⟩ := @length_serve φ body dynamics { world := w } inputs
  have hCounts' : (eventCounts dynamics w inputs).length = inputs.length := hCounts
  rw [← hCounts', ← splitAt_iff (by decide), hCounts']
  have hSplit : ∀ before output after, serve body dynamics { world := w } inputs = before ++ output :: after →
      (((∀ frame ∈ (before ++ [output]).flatMap TickOutput.frames,
          frameSeqId frame ≤ (serialize output.snapshot).seqCursor) ∧
        ∀ frame ∈ after.flatMap TickOutput.frames, (serialize output.snapshot).seqCursor < frameSeqId frame) ↔
      SplitAt (2 ^ 32) (eventCounts dynamics w inputs) (before.length + 1)) := by
    intro before output after h
    obtain ⟨hFirst, hLater⟩ := map_frameSeqId_parts { world := w } rfl h rfl rfl
    have hCursor := seqCursor_serve { world := w } h
    change _ = BitVec.ofNat 32 (w.state.currentTick + before.length + 1) at hCursor
    rw [hLoaded.fresh.tick, Nat.zero_add] at hCursor
    rw [hCursor, ← List.forall_mem_map (P := fun seqId => seqId ≤ _), hFirst,
      ← List.forall_mem_map (P := fun seqId => _ < seqId), hLater, SplitAt]
    simp only [List.forall_mem_map, List.mem_range, BitVec.le_def, BitVec.lt_def, BitVec.toNat_ofNat]
    refine and_congr_right fun _ => ⟨fun hAbove j hj hSum => ?_, fun hAbove j hj => ?_⟩
    · have hAt := hAbove (j - itemsUpTo (eventCounts dynamics w inputs) (before.length + 1)) (by omega)
      rwa [Nat.add_sub_cancel' hj] at hAt
    · exact hAbove _ (Nat.le_add_right _ _) (by omega)
  constructor
  · intro h n hFirst hLast
    have hShort : n - 1 < (serve body dynamics { world := w } inputs).length := by omega
    have hCut := List.take_append_drop (n - 1) (serve body dynamics { world := w } inputs)
    rw [List.drop_eq_getElem_cons hShort] at hCut
    have hAt := (hSplit _ _ _ hCut.symm).mp (h _ _ _ hCut.symm)
    rwa [List.length_take, min_eq_left hShort.le, Nat.sub_add_cancel hFirst] at hAt
  · intro h before output after hCut
    have hLength := congrArg List.length hCut
    rw [List.length_append, List.length_cons] at hLength
    exact (hSplit before output after hCut).mpr (h (before.length + 1) (by omega) (by omega))

/-- The dispatcher puts signal 21 to stop. -/
def stopSignal : Command := .setSignalAspect { uid := ⟨21⟩, aspect := .s1Stop }

/-- Two signals are put to stop in the only tick. -/
theorem cursor_parts_fork : CursorParts
    (serve (fun _ => []) World.idleTrains { world := World.start .ml8 forkStation }
      [{ queue := [stopSignal, stopSignal] }]) := by
  refine (cursor_parts_iff ⟨[forkStation], _, rfl⟩ (fun _ => []) _).mpr fun n hFirst hLast => ?_
  obtain rfl : n = 1 := Nat.le_antisymm hLast hFirst
  have hCounts : eventCounts World.idleTrains (World.start .ml8 forkStation)
      [{ queue := [stopSignal, stopSignal] }] = [2] := by decide +kernel
  rw [hCounts]
  decide

/-- With one event in each tick the frame of the second tick bears the number that the snapshot of the first
claims to contain. -/
theorem secondEvent_dropped : ¬ ∀ (w : World Unit) (inputs : List (TickInput Unit)), w.Loaded →
    CursorParts (serve (fun _ => []) World.idleTrains { world := w } inputs) := by
  intro h
  let inputs : List (TickInput Unit) := [{ queue := [stopSignal] }, { queue := [stopSignal] }]
  have hParts := h (World.start .ml8 forkStation) inputs ⟨[forkStation], _, rfl⟩
  have hCounts : eventCounts World.idleTrains (World.start .ml8 forkStation) inputs = [1, 1] := by decide +kernel
  let s : ServerState Unit := { world := World.start .ml8 forkStation }
  let first := serverTick (fun _ => []) World.idleTrains s { queue := [stopSignal] }
  have hCut : serve (fun _ => []) World.idleTrains s inputs =
      [] ++ first.2 :: serve (fun _ => []) World.idleTrains first.1 [{ queue := [stopSignal] }] := rfl
  have hNumbers := (map_frameSeqId_parts s rfl hCut rfl rfl).2
  have hCursor := seqCursor_serve s hCut
  rw [hCounts] at hNumbers
  have hSecond : (1 : BitVec 32) ∈ ((serve (fun _ => []) World.idleTrains first.1
      [{ queue := [stopSignal] }]).flatMap TickOutput.frames).map frameSeqId := by
    rw [hNumbers]
    decide
  obtain ⟨frame, hFrame, hSeq⟩ := List.mem_map.mp hSecond
  have hAbove := (hParts _ _ _ hCut).2 frame hFrame
  rw [hSeq, hCursor] at hAbove
  have hTick : s.world.state.currentTick = 0 := by decide +kernel
  rw [hTick] at hAbove
  exact absurd hAbove (by decide)

end Symulator.Server
