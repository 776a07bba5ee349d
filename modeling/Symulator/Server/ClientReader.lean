import Symulator.Library.Replay
import Symulator.Server.ClientMirror
import Symulator.Server.SnapshotDelivery
import Symulator.Server.TransportGateway

/-! # A client that reads its socket

The client decodes what is written to its socket. It puts the chunks of a snapshot together and takes its view from
them, and lets every event after that change the view. A frame it can not decode ends the connection. Events overwrite,
so hearing the last of them again does no harm.
-/

namespace Symulator.Server

open Symulator.Library Symulator.Engine

set_option autoImplicit false

/-! ## Events overwrite -/

section Tables

variable {α : Type} (uid uid' : UID)

theorem revise_again (f : α → α) (h : ∀ v, f (f v) = f v) (table : UID → Option α) :
    revise (revise table uid f) uid f = revise table uid f := by
  funext u
  simp only [revise, Option.map_map]
  congr 1
  funext v
  simp only [Function.comp_apply]
  split
  · exact h v
  · rfl

/-- Changes of two entries change places; of two changes of one entry the later hides the earlier, where it does so for
every value. -/
theorem revise_apart (f g : α → α) (h : Apart f g) :
    Apart (fun table => revise table uid f) fun table => revise table uid' g := by
  by_cases hSame : uid = uid'
  · subst hSame
    refine h.imp (fun hSwap table => ?_) fun hHide table => ?_
    all_goals
      funext u
      simp only [revise, Option.map_map]
      congr 1
      funext v
      simp only [Function.comp_apply]
      split
    · exact hSwap v
    · rfl
    · exact hHide v
    · rfl
  · refine Or.inl fun table => ?_
    funext u
    simp only [revise, Option.map_map]
    congr 1
    funext v
    simp only [Function.comp_apply]
    split
    · rename_i hHere
      have hOther : ¬ u = uid := fun hOther => hSame (hOther.symm.trans hHere)
      rw [if_neg hOther, if_neg hOther]
    · rfl

/-- An entry set or struck out. -/
def place (o : Option α) (table : UID → Option α) : UID → Option α := fun u => if u = uid then o else table u

theorem place_again (o : Option α) (table : UID → Option α) : place uid o (place uid o table) = place uid o table := by
  funext u
  simp only [place]
  split <;> rfl

theorem place_apart (o o' : Option α) : Apart (place uid o) (place uid' o') := by
  by_cases hSame : uid = uid'
  · subst hSame
    refine Or.inr fun table => funext fun u => ?_
    simp only [place]
    split <;> rfl
  · refine Or.inl fun table => funext fun u => ?_
    simp only [place]
    split
    · rename_i hHere
      rw [if_neg fun hOther => hSame (hOther.symm.trans hHere)]
    · rfl

end Tables

namespace ClientView

def onSwitches (f : (UID → Option Nat) → UID → Option Nat) (v : ClientView) : ClientView :=
  { v with switches := f v.switches }

def onSignals (f : (UID → Option Nat) → UID → Option Nat) (v : ClientView) : ClientView :=
  { v with signals := f v.signals }

def onSections (f : (UID → Option (Bool × Int)) → UID → Option (Bool × Int)) (v : ClientView) : ClientView :=
  { v with sections := f v.sections }

def onDerailers (f : (UID → Option Nat) → UID → Option Nat) (v : ClientView) : ClientView :=
  { v with derailers := f v.derailers }

def onBlocks (f : (UID → Option (Nat × Nat)) → UID → Option (Nat × Nat)) (v : ClientView) : ClientView :=
  { v with blocks := f v.blocks }

def onRoutes (f : (UID → Option (UID × UID × List UID)) → UID → Option (UID × UID × List UID)) (v : ClientView) :
    ClientView :=
  { v with routes := f v.routes }

theorem observe_again (v : ClientView) (e : DomainEvent) : (v.observe e).observe e = v.observe e := by
  cases e with
  | switchPositionChanged uid p _ =>
    exact congrArg (fun t => { v with switches := t }) (revise_again uid (fun _ => p) (fun _ => rfl) _)
  | signalAspectChanged uid a _ =>
    exact congrArg (fun t => { v with signals := t }) (revise_again uid (fun _ => a) (fun _ => rfl) _)
  | trackSectionOccupancyChanged uid occupied axleCount _ =>
    exact congrArg (fun t => { v with sections := t })
      (revise_again uid (fun _ => (occupied, axleCount)) (fun _ => rfl) _)
  | derailerPositionChanged uid p _ =>
    exact congrArg (fun t => { v with derailers := t }) (revise_again uid (fun _ => p) (fun _ => rfl) _)
  | blockSectionStateChanged uid state =>
    exact congrArg (fun t => { v with blocks := t }) (revise_again uid (fun b => (state, b.2)) (fun _ => rfl) _)
  | blockDirectionStateChanged uid direction _ =>
    exact congrArg (fun t => { v with blocks := t }) (revise_again uid (fun b => (b.1, direction)) (fun _ => rfl) _)
  | routeSet uid | routeReleased uid => exact congrArg (fun t => { v with routes := t }) (place_again uid _ v.routes)
  | alarmRaised | alarmCleared | operatorCommandStateChanged | ml8CommandStateChanged => rfl

theorem observe_apart (e f : DomainEvent) :
    Apart (fun v : ClientView => v.observe e) fun v : ClientView => v.observe f := by
  cases e with
  | switchPositionChanged uid p _ =>
    cases f with
    | switchPositionChanged uid' p' _ =>
      exact (revise_apart uid uid' (fun _ => p) (fun _ => p') (Or.inr fun _ => rfl)).lift onSwitches fun _ _ _ => rfl
    | _ => exact Or.inl fun _ => rfl
  | signalAspectChanged uid a _ =>
    cases f with
    | signalAspectChanged uid' a' _ =>
      exact (revise_apart uid uid' (fun _ => a) (fun _ => a') (Or.inr fun _ => rfl)).lift onSignals fun _ _ _ => rfl
    | _ => exact Or.inl fun _ => rfl
  | trackSectionOccupancyChanged uid o n _ =>
    cases f with
    | trackSectionOccupancyChanged uid' o' n' _ =>
      exact (revise_apart uid uid' (fun _ => (o, n)) (fun _ => (o', n')) (Or.inr fun _ => rfl)).lift onSections
        fun _ _ _ => rfl
    | _ => exact Or.inl fun _ => rfl
  | derailerPositionChanged uid p _ =>
    cases f with
    | derailerPositionChanged uid' p' _ =>
      exact (revise_apart uid uid' (fun _ => p) (fun _ => p') (Or.inr fun _ => rfl)).lift onDerailers fun _ _ _ => rfl
    | _ => exact Or.inl fun _ => rfl
  | blockSectionStateChanged uid b =>
    cases f with
    | blockSectionStateChanged uid' b' =>
      exact (revise_apart uid uid' (fun x => (b, x.2)) (fun x => (b', x.2)) (Or.inr fun _ => rfl)).lift onBlocks
        fun _ _ _ => rfl
    | blockDirectionStateChanged uid' d' _ =>
      exact (revise_apart uid uid' (fun x => (b, x.2)) (fun x => (x.1, d')) (Or.inl fun _ => rfl)).lift onBlocks
        fun _ _ _ => rfl
    | _ => exact Or.inl fun _ => rfl
  | blockDirectionStateChanged uid d _ =>
    cases f with
    | blockSectionStateChanged uid' b' =>
      exact (revise_apart uid uid' (fun x => (x.1, d)) (fun x => (b', x.2)) (Or.inl fun _ => rfl)).lift onBlocks
        fun _ _ _ => rfl
    | blockDirectionStateChanged uid' d' _ =>
      exact (revise_apart uid uid' (fun x => (x.1, d)) (fun x => (x.1, d')) (Or.inr fun _ => rfl)).lift onBlocks
        fun _ _ _ => rfl
    | _ => exact Or.inl fun _ => rfl
  | routeSet uid | routeReleased uid =>
    cases f with
    | routeSet uid' | routeReleased uid' =>
      exact (place_apart uid uid' _ _).lift onRoutes fun _ _ _ => rfl
    | _ => exact Or.inl fun _ => rfl
  | alarmRaised | alarmCleared | operatorCommandStateChanged | ml8CommandStateChanged => exact Or.inl fun _ => rfl

theorem overwrites_observe : Overwrites observe := ⟨observe_again, observe_apart⟩

end ClientView

/-! ## Reading -/

/-- What a client makes of the FlatBuffers in the payloads of the server. -/
structure ClientCodec where
  readEvent : List Byte → Option DomainEvent
  readSnapshot : List Byte → Option Proto.Snapshot

/-- The chunks gathered, the view once there is one, and whether the connection has been given up. -/
structure ClientReader where
  chunks : List Byte := []
  view : Option ClientView := none
  lost : Bool := false

namespace ClientReader

variable (client : ClientCodec)

def read (r : ClientReader) (content : Outgoing) : ClientReader :=
  if r.lost then r
  else
    let result := decodeFrame content.bytes
    if result.status ≠ .ok then { lost := true }
    else if result.frame.msgType = MsgType.kSnapshotChunk then
      let chunks := r.chunks ++ result.frame.payload
      if result.frame.isLastChunk then { view := (client.readSnapshot chunks).map ClientView.ofSnapshot }
      else { r with chunks }
    else if result.frame.msgType = MsgType.kDomainEvent then
      { r with view := r.view.map fun v => (client.readEvent result.frame.payload).elim v v.observe }
    else r

def readAll (r : ClientReader) (contents : List Outgoing) : ClientReader := contents.foldl (read client) r

/-- No chunk waits for others, and a client that is lost has no view. -/
structure Tidy (r : ClientReader) : Prop where
  chunks : r.chunks = []
  lost : r.lost = true → r.view = none

variable {client} {r : ClientReader}

theorem readAll_append (contents more : List Outgoing) :
    r.readAll client (contents ++ more) = (r.readAll client contents).readAll client more := List.foldl_append

theorem read_of_lost (h : r.lost = true) (content : Outgoing) : r.read client content = r := if_pos h

theorem readAll_of_lost (h : r.lost = true) (contents : List Outgoing) : r.readAll client contents = r := by
  induction contents with
  | nil => rfl
  | cons content contents ih => rw [readAll, List.foldl_cons, read_of_lost h]; exact ih

theorem decodeFrame_msgType {data : List Byte} (h : (decodeFrame data).status = .ok) :
    (decodeFrame data).frame.msgType = data.getD 2 0 := by
  obtain ⟨frame, rest, hLength, rfl⟩ := encode_of_decodeFrame h
  rw [(decodeFrame_encode hLength rest).2.1]
  rfl

theorem decodeFrame_encodeFrame_cases (msgType flags : Byte) (seqId : BitVec 32) {payload : List Byte}
    (h : payload.length < 2 ^ 32) : (decodeFrame (encodeFrame msgType flags seqId payload)).status ≠ .ok ∨
      (decodeFrame (encodeFrame msgType flags seqId payload)).status = .ok ∧
        (decodeFrame (encodeFrame msgType flags seqId payload)).frame = { msgType, flags, seqId, payload } := by
  rcases Nat.lt_or_ge kMaxPayloadLen.toNat payload.length with hLong | hFits
  · left
    have hBad := @decodeFrame_of_long { msgType, flags, seqId, payload } hLong h []
    rw [List.append_nil, DecodedFrame.encode] at hBad
    rw [hBad]
    decide
  · right
    have hOk := decodeFrame_encodeFrame msgType flags seqId hFits []
    rw [List.append_nil] at hOk
    rw [hOk]
    exact ⟨rfl, rfl⟩

/-- A frame that is neither a chunk nor an event tells the client nothing. -/
theorem Tidy.other (h : r.Tidy) {content : Outgoing} (hChunk : content.bytes.getD 2 0 ≠ MsgType.kSnapshotChunk)
    (hEvent : content.bytes.getD 2 0 ≠ MsgType.kDomainEvent) :
    (r.read client content).Tidy ∧ ∀ v, (r.read client content).view = some v → r.view = some v := by
  unfold read
  split
  · exact ⟨h, fun v hv => hv⟩
  · dsimp only
    split
    · exact ⟨⟨rfl, fun _ => rfl⟩, fun v hv => by cases hv⟩
    · rename_i hOk
      rw [decodeFrame_msgType (not_not.mp hOk), if_neg hChunk, if_neg hEvent]
      exact ⟨h, fun v hv => hv⟩

theorem Tidy.event (h : r.Tidy) {content : Outgoing} {event : DomainEvent} {payload : List Byte} {seqId : BitVec 32}
    (hContent : content.bytes = encodeFrame MsgType.kDomainEvent 0 seqId payload) (hLength : payload.length < 2 ^ 32)
    (hRead : client.readEvent payload = some event) : (r.read client content).Tidy ∧
      ∀ v, (r.read client content).view = some v → ∃ before, r.view = some before ∧ v = before.observe event := by
  unfold read
  split
  · rename_i hLost
    refine ⟨h, fun v hv => ?_⟩
    rw [h.lost hLost] at hv
    cases hv
  · rename_i hHears
    rw [hContent]
    rcases decodeFrame_encodeFrame_cases MsgType.kDomainEvent 0 seqId hLength with hBad | ⟨hOk, hFrame⟩
    · dsimp only
      rw [if_pos hBad]
      exact ⟨⟨rfl, fun _ => rfl⟩, fun v hv => by cases hv⟩
    · dsimp only
      rw [if_neg (not_not.mpr hOk), hFrame, if_neg (show ¬ MsgType.kDomainEvent = MsgType.kSnapshotChunk by decide),
        if_pos rfl]
      refine ⟨⟨h.chunks, fun hLost => absurd hLost hHears⟩, fun v hv => ?_⟩
      obtain ⟨before, hBefore, rfl⟩ := Option.map_eq_some_iff.mp hv
      rw [hRead]
      exact ⟨before, hBefore, rfl⟩

/-- Chunks before the last one are gathered. -/
theorem readAll_chunks {frames : List DecodedFrame} (hHears : r.lost = false)
    (hFrames : ∀ frame ∈ frames, frame.msgType = MsgType.kSnapshotChunk ∧ frame.isLastChunk = false ∧
      frame.payload.length < 2 ^ 32) : r.readAll client (frames.map .own) = { lost := true } ∨
        r.readAll client (frames.map .own) = { r with chunks := r.chunks ++ frames.flatMap DecodedFrame.payload } := by
  induction frames generalizing r with
  | nil =>
    right
    simp [readAll]
  | cons frame frames ih =>
    obtain ⟨hType, hNot, hLength⟩ := hFrames frame List.mem_cons_self
    have hStep : r.read client (.own frame) = { lost := true } ∨
        r.read client (.own frame) = { r with chunks := r.chunks ++ frame.payload } := by
      unfold read
      rw [if_neg (by simp [hHears])]
      rcases decodeFrame_encodeFrame_cases frame.msgType frame.flags frame.seqId hLength with hBad | ⟨hOk, hFrame⟩
      · left
        exact if_pos hBad
      · right
        dsimp only [Outgoing.bytes, DecodedFrame.encode]
        rw [if_neg (not_not.mpr hOk), hFrame, if_pos hType, if_neg (by simpa using hNot)]
    rw [List.map_cons, readAll, List.foldl_cons, ← readAll]
    rcases hStep with hLost | hMore
    · left
      rw [hLost]
      exact readAll_of_lost rfl _
    · rw [hMore]
      rcases @ih { r with chunks := r.chunks ++ frame.payload } hHears
        fun other hOther => hFrames other (List.mem_cons_of_mem _ hOther) with hLost | hAll
      · exact Or.inl hLost
      · right
        rw [hAll, List.flatMap_cons, List.append_assoc]

/-- The chunks of a snapshot give the client the view of it, unless it is lost over one of them. -/
theorem Tidy.snapshot (h : r.Tidy) {binary : List Byte} {snap : Proto.Snapshot} (txSeq : BitVec 32)
    (hRead : client.readSnapshot binary = some snap) :
    (r.readAll client ((snapshotFrames txSeq (chunk binary defaultChunkSize)).map .own)).Tidy ∧
      ∀ v, (r.readAll client ((snapshotFrames txSeq (chunk binary defaultChunkSize)).map .own)).view = some v →
        v = ClientView.ofSnapshot snap := by
  cases hLost : r.lost with
  | true =>
    rw [readAll_of_lost hLost]
    refine ⟨h, fun v hv => ?_⟩
    rw [h.lost hLost] at hv
    cases hv
  | false =>
    obtain ⟨frames, last, hFrames, hLast, hOthers⟩ :=
      @isLastChunk_snapshotFrames txSeq _ (@chunk_ne_nil defaultChunkSize binary)
    have hPayloads := @flatMap_payload_snapshotFrames txSeq (chunk binary defaultChunkSize)
    have hAll : ∀ frame ∈ frames ++ [last], frame.msgType = MsgType.kSnapshotChunk ∧ frame.payload.length < 2 ^ 32 := by
      intro frame hFrame
      rw [← hFrames] at hFrame
      obtain ⟨i, hi, rfl⟩ := List.mem_mapIdx.mp hFrame
      have hLength := @length_le_of_mem_chunk defaultChunkSize binary _ (List.getElem_mem hi)
      exact ⟨rfl, Nat.lt_of_le_of_lt hLength (by decide)⟩
    rw [flatten_chunk (by decide), hFrames, List.flatMap_append, List.flatMap_singleton] at hPayloads
    rw [hFrames, List.map_append, readAll_append]
    rcases @readAll_chunks client r frames hLost fun frame hFrame =>
        ⟨(hAll frame (List.mem_append_left _ hFrame)).1, hOthers frame hFrame,
          (hAll frame (List.mem_append_left _ hFrame)).2⟩
      with hGone | hGathered
    · rw [hGone, readAll_of_lost rfl]
      exact ⟨⟨rfl, fun _ => rfl⟩, fun v hv => by cases hv⟩
    · obtain ⟨hType, hLength⟩ := hAll last (List.mem_append_right _ List.mem_cons_self)
      rw [hGathered, h.chunks, List.nil_append]
      change (read client _ (.own last)).Tidy ∧ ∀ v, (read client _ (.own last)).view = some v → _
      unfold read
      rw [if_neg (by simp [hLost])]
      rcases decodeFrame_encodeFrame_cases last.msgType last.flags last.seqId hLength with hBad | ⟨hOk, hFrame⟩
      · dsimp only [Outgoing.bytes, DecodedFrame.encode]
        rw [if_pos hBad]
        exact ⟨⟨rfl, fun _ => rfl⟩, fun v hv => by cases hv⟩
      · dsimp only [Outgoing.bytes, DecodedFrame.encode]
        rw [if_neg (not_not.mpr hOk), hFrame, if_pos hType, if_pos hLast, hPayloads, hRead]
        exact ⟨⟨rfl, fun hGone => by cases hGone⟩, fun v hv => (Option.some.inj hv).symm⟩

end ClientReader

end Symulator.Server
