import Symulator.Server.Segmentation

/-! # What a session does in the course of its life

The frames of a client are reacted to one by one. Over all of them the replies are numbered without a gap, commands
are queued only behind a handshake that named their author, and the dispatch area of the session stays empty: no
frame sets it.
-/

namespace Symulator.Server

open Symulator.Library Symulator.Engine

set_option autoImplicit false

section Reactions

variable {γ : Type} (codec : SessionCodec γ) (around : Surroundings) (s : ClientSession) (frame : DecodedFrame)

/-- The handshake names the player. -/
def NamesPlayer (playerId : String) : Prop :=
  frame.msgType = MsgType.kHandshake ∧ ∃ hs, codec.readHandshake frame.payload = some hs ∧ hs.playerId = some playerId ∧
    hs.authToken.isSome

/-- The transitions of a session. -/
inductive Reacts : ClientSession → List (SessionEffect γ) → Prop
  | refuse (h : ClientSession.Refused codec frame) : Reacts s.close []
  | join {playerId sessionId : String} {payload : List Byte} (h : NamesPlayer codec frame playerId) :
    Reacts { s with info := { s.info with playerId, sessionId, state := .active }, txSeq := s.txSeq + 1 }
      [.send { msgType := MsgType.kHandshakeAck, flags := 0, seqId := s.txSeq, payload }]
  | snapshot (chunks : List (List Byte)) (hType : frame.msgType = MsgType.kSnapshotRequest) (hActive : s.isActive) :
    Reacts { s with txSeq := s.txSeq + BitVec.ofNat 32 chunks.length } ((snapshotFrames s.txSeq chunks).map .send)
  | answer {msgType flags : Byte} {payload : List Byte} (hType : frame.msgType ≠ MsgType.kHandshake) :
    Reacts { s with txSeq := s.txSeq + 1 } [.send { msgType, flags, seqId := s.txSeq, payload }]
  | command {cmd : γ} {payload : List Byte} (hType : frame.msgType = MsgType.kCommand) (hActive : s.isActive)
      (hParse : codec.parsePayload frame.payload = some cmd) :
    Reacts { s with txSeq := s.txSeq + 1 }
      [.push
          { seqId := frame.seqId, priority := .normal, playerId := s.info.playerId, timestampUs := around.nowUs } cmd,
        .send { msgType := MsgType.kCommandAck, flags := 0, seqId := s.txSeq, payload }]
  | dispatch (hType : frame.msgType = MsgType.kDispatchChannel) (hActive : s.isActive) :
      Reacts s [.dispatch frame.payload s.info.playerId s.info.dispatchAreaId]
  | ignore (hType : frame.msgType ≠ MsgType.kHandshake) : Reacts s []

variable {codec around s frame}

theorem handleHandshake_reacts (h : frame.msgType = MsgType.kHandshake) : Reacts codec around s frame
    (ClientSession.handleHandshake codec around s frame).1 (ClientSession.handleHandshake codec around s frame).2 := by
  unfold ClientSession.handleHandshake
  split
  · rename_i hEmpty
    exact .refuse ⟨h, by simp [ClientSession.acceptsHandshake, hEmpty]⟩
  · rename_i hSome
    cases hRead : codec.readHandshake frame.payload with
    | none => exact .refuse ⟨h, by simp [ClientSession.acceptsHandshake, hRead]⟩
    | some hs =>
      cases hPlayer : hs.playerId with
      | none => simpa [hPlayer] using Reacts.refuse ⟨h, by simp [ClientSession.acceptsHandshake, hRead, hPlayer]⟩
      | some playerId =>
        cases hToken : hs.authToken with
        | none => simpa [hPlayer, hToken] using
            Reacts.refuse ⟨h, by simp [ClientSession.acceptsHandshake, hRead, hToken]⟩
        | some token =>
          simp only [hPlayer, hToken]
          exact .join ⟨h, hs, hRead, hPlayer, by rw [hToken]; rfl⟩

theorem handleFrame_reacts : Reacts codec around s frame (ClientSession.handleFrame codec around s frame).1
    (ClientSession.handleFrame codec around s frame).2 := by
  unfold ClientSession.handleFrame
  split
  · rename_i hHandshake
    exact handleHandshake_reacts hHandshake
  rename_i hOther
  split
  · rename_i hSnapshot
    split
    · rename_i hActive
      unfold ClientSession.handleSnapshotRequest
      split
      · exact .ignore hOther
      · exact .snapshot _ hSnapshot hActive
    · exact .ignore hOther
  split
  · rename_i hCommand
    split
    · rename_i hActive
      unfold ClientSession.handleCommand
      split
      · exact .ignore hOther
      · split
        · exact .answer hOther
        · rename_i cmd hParse
          split
          · exact .command hCommand hActive hParse
          · exact .ignore hOther
    · exact .ignore hOther
  split
  · exact .answer hOther
  split
  · rename_i hDispatch
    split
    · rename_i hActive
      unfold ClientSession.handleDispatchChannel
      split
      · exact .dispatch hDispatch hActive
      · exact .ignore hOther
    · exact .ignore hOther
  · exact .ignore hOther

end Reactions

/-! ## The frames handled so far -/

namespace Connection

variable {γ : Type} {codec : SessionCodec γ} {around : Nat → Surroundings}

/-- What every reaction and the closing of the session keep, a read keeps. -/
theorem receive_invariant (P : ClientSession → List (HandledFrame γ) → Prop)
    (hReact : ∀ s handled around frame s' effects, P s handled → Reacts codec around s frame s' effects →
      P s' (handled ++ [{ frame, before := s.info.state, after := s'.info.state, effects }]))
    (hClose : ∀ s handled, P s handled → P s.close handled) {c : Connection γ} (h : P c.session c.handled)
    (bytes : List Byte) : P (receive codec around c bytes).session (receive codec around c bytes).handled := by
  have hAll : ∀ (frames : List DecodedFrame) (c : Connection γ), P c.session c.handled →
      P (handleAll codec around c frames).session (handleAll codec around c frames).handled := by
    intro frames
    induction frames with
    | nil => exact fun _ hc => hc
    | cons frame frames ih =>
      intro c hc
      exact ih (handle codec around c frame) (hReact _ _ _ _ _ _ hc handleFrame_reacts)
  unfold receive
  split
  · unfold onRead processBuffer
    rw [processFrames_eq]
    dsimp only
    unfold closeIfBroken
    split
    · exact hClose _ _ (hAll _ _ h)
    · exact hAll _ _ h
  · exact h

theorem handled_prefix (c : Connection γ) (bytes : List Byte) : c.handled <+: (receive codec around c bytes).handled :=
  receive_invariant (fun _ handled => c.handled <+: handled)
    (fun _ _ _ _ _ _ h _ => h.trans (List.prefix_append _ _)) (fun _ _ h => h) List.prefix_rfl bytes

end Connection

section History

variable {γ : Type} {codec : SessionCodec γ}

/-- The frames that effects send. -/
def sendsOf (effects : List (SessionEffect γ)) : List DecodedFrame :=
  effects.filterMap fun effect =>
    match effect with
    | .send frame => some frame
    | .push .. | .dispatch .. => none

@[simp] theorem sendsOf_append (effects more : List (SessionEffect γ)) :
    sendsOf (effects ++ more) = sendsOf effects ++ sendsOf more := List.filterMap_append

/-- The frames a session has sent. -/
def replies (handled : List (HandledFrame γ)) : List DecodedFrame := handled.flatMap fun h => sendsOf h.effects

/-- Frames numbered from `start` on. -/
def NumberedFrom (start : BitVec 32) (frames : List DecodedFrame) : Prop :=
  frames.map DecodedFrame.seqId = (List.range frames.length).map fun i => start + BitVec.ofNat 32 i

theorem numberedFrom_singleton {frame : DecodedFrame} : NumberedFrom frame.seqId [frame] := by
  simp [NumberedFrom]

theorem numberedFrom_nil (start : BitVec 32) : NumberedFrom start [] := rfl

theorem numberedFrom_append {start : BitVec 32} {frames more : List DecodedFrame} (h : NumberedFrom start frames)
    (hMore : NumberedFrom (start + BitVec.ofNat 32 frames.length) more) : NumberedFrom start (frames ++ more) := by
  unfold NumberedFrom at *
  rw [List.map_append, h, hMore, List.length_append, List.range_add, List.map_append, List.map_map]
  congr 1
  refine List.map_congr_left fun i _ => ?_
  rw [Function.comp_apply, BitVec.ofNat_add, BitVec.add_assoc]

theorem numberedFrom_snapshotFrames (start : BitVec 32) (chunks : List (List Byte)) :
    NumberedFrom start (snapshotFrames start chunks) := by
  unfold NumberedFrom snapshotFrames
  apply List.ext_getElem
  · simp
  · intro i h₁ h₂
    simp

theorem Reacts.numbered {around : Surroundings} {s s' : ClientSession} {frame : DecodedFrame}
    {effects : List (SessionEffect γ)} (h : Reacts codec around s frame s' effects) :
    NumberedFrom s.txSeq (sendsOf effects) ∧ s'.txSeq = s.txSeq + BitVec.ofNat 32 (sendsOf effects).length := by
  cases h with
  | refuse | ignore | dispatch => exact ⟨numberedFrom_nil _, (BitVec.add_zero _).symm⟩
  | join | answer | command => exact ⟨numberedFrom_singleton, rfl⟩
  | snapshot chunks =>
    have hSends : sendsOf ((snapshotFrames s.txSeq chunks).map (SessionEffect.send (γ := γ))) =
        snapshotFrames s.txSeq chunks := by
      simp [sendsOf, List.filterMap_map]
    rw [hSends]
    refine ⟨numberedFrom_snapshotFrames _ _, ?_⟩
    simp [snapshotFrames]

variable (codec) in
/-- A command is queued under the number of the frame it came in, for the player that the last handshake named. -/
def Authored (handled : List (HandledFrame γ)) (cmdMeta : CommandMeta) (cmd : γ) : Prop :=
  ∃ before joined between sent after, handled = before ++ joined :: between ++ sent :: after ∧
    NamesPlayer codec joined.frame cmdMeta.playerId ∧ (∀ h ∈ between, h.frame.msgType ≠ MsgType.kHandshake) ∧
    sent.frame.msgType = MsgType.kCommand ∧ codec.parsePayload sent.frame.payload = some cmd ∧
    sent.frame.seqId = cmdMeta.seqId

theorem Authored.append {handled : List (HandledFrame γ)} {cmdMeta : CommandMeta} {cmd : γ}
    (h : Authored codec handled cmdMeta cmd) (more : List (HandledFrame γ)) :
    Authored codec (handled ++ more) cmdMeta cmd := by
  obtain ⟨before, joined, between, sent, after, rfl, hJoined, hBetween, hSent⟩ := h
  exact ⟨before, joined, between, sent, after ++ more, by simp, hJoined, hBetween, hSent⟩

variable (codec) in
/-- What holds of a session and of the frames it has handled. -/
structure History (s : ClientSession) (handled : List (HandledFrame γ)) : Prop where
  numbered : NumberedFrom 0 (replies handled)
  txSeq : s.txSeq = BitVec.ofNat 32 (replies handled).length
  area : s.info.dispatchAreaId = ""
  dispatched : ∀ h ∈ handled, ∀ payload playerId areaId, SessionEffect.dispatch payload playerId areaId ∈ h.effects →
    areaId = ""
  joined : s.isActive → ∃ before joined between, handled = before ++ joined :: between ∧
    NamesPlayer codec joined.frame s.info.playerId ∧ ∀ h ∈ between, h.frame.msgType ≠ MsgType.kHandshake
  pushed : ∀ h ∈ handled, ∀ cmdMeta cmd, SessionEffect.push cmdMeta cmd ∈ h.effects → Authored codec handled cmdMeta cmd

theorem history_start : History codec {} [] where
  numbered := numberedFrom_nil 0
  txSeq := rfl
  area := rfl
  dispatched _ hIn := absurd hIn List.not_mem_nil
  joined hActive := absurd hActive (by decide)
  pushed _ hIn := absurd hIn List.not_mem_nil

theorem History.close {s : ClientSession} {handled : List (HandledFrame γ)} (h : History codec s handled) :
    History codec s.close handled :=
  { h with joined := fun hActive => absurd hActive (by simp [ClientSession.isActive, ClientSession.close]) }

section React

variable {around : Surroundings} {s s' : ClientSession} {frame : DecodedFrame} {effects : List (SessionEffect γ)}
  {handled : List (HandledFrame γ)}

theorem replies_concat (h : HandledFrame γ) : replies (handled ++ [h]) = replies handled ++ sendsOf h.effects := by
  simp [replies]

theorem Reacts.area (h : Reacts codec around s frame s' effects) : s'.info.dispatchAreaId = s.info.dispatchAreaId ∧
    ∀ payload playerId areaId, SessionEffect.dispatch payload playerId areaId ∈ effects →
      areaId = s.info.dispatchAreaId := by
  cases h with
  | refuse | ignore => exact ⟨rfl, fun _ _ _ hIn => absurd hIn List.not_mem_nil⟩
  | join | answer | command => exact ⟨rfl, by simp⟩
  | snapshot chunks => exact ⟨rfl, by simp⟩
  | dispatch => exact ⟨rfl, by simp⟩

/-- A session that is active after a reaction has just been joined, or it was active and no handshake came in. -/
theorem Reacts.joined (h : Reacts codec around s frame s' effects) (hActive : s'.isActive) :
    NamesPlayer codec frame s'.info.playerId ∨
      s.isActive ∧ s'.info.playerId = s.info.playerId ∧ frame.msgType ≠ MsgType.kHandshake := by
  cases h with
  | refuse => exact absurd hActive (by simp [ClientSession.isActive, ClientSession.close])
  | join hNames => exact Or.inl hNames
  | answer hType | ignore hType => exact Or.inr ⟨hActive, rfl, hType⟩
  | snapshot _ hType | command hType | dispatch hType =>
    refine Or.inr ⟨hActive, rfl, ?_⟩
    rw [hType]
    decide

theorem Reacts.pushed (h : Reacts codec around s frame s' effects) {cmdMeta : CommandMeta} {cmd : γ}
    (hPush : SessionEffect.push cmdMeta cmd ∈ effects) : s.isActive ∧ cmdMeta.playerId = s.info.playerId ∧
      frame.msgType = MsgType.kCommand ∧ codec.parsePayload frame.payload = some cmd ∧ frame.seqId = cmdMeta.seqId := by
  cases h with
  | refuse | ignore => exact absurd hPush List.not_mem_nil
  | join | answer | snapshot | dispatch => simp at hPush
  | command hType hActive hParse =>
    simp only [List.mem_cons, SessionEffect.push.injEq, List.not_mem_nil, or_false, reduceCtorEq] at hPush
    obtain ⟨rfl, rfl⟩ := hPush
    exact ⟨hActive, rfl, hType, hParse, rfl⟩

theorem History.react (h : History codec s handled) (hReact : Reacts codec around s frame s' effects) :
    History codec s' (handled ++ [{ frame, before := s.info.state, after := s'.info.state, effects }]) where
  numbered := by
    rw [replies_concat]
    refine numberedFrom_append h.numbered ?_
    have hStart : (0 : BitVec 32) + BitVec.ofNat 32 (replies handled).length = s.txSeq := by
      rw [h.txSeq]
      exact BitVec.zero_add _
    rw [hStart]
    exact hReact.numbered.1
  txSeq := by
    rw [hReact.numbered.2, h.txSeq, replies_concat, List.length_append, BitVec.ofNat_add]
  area := hReact.area.1.trans h.area
  dispatched g hg payload playerId areaId hIn := by
    rcases List.mem_append.mp hg with hg | hg
    · exact h.dispatched g hg payload playerId areaId hIn
    · rw [List.mem_singleton.mp hg] at hIn
      exact (hReact.area.2 payload playerId areaId hIn).trans h.area
  joined hActive := by
    rcases hReact.joined hActive with hNames | ⟨hBefore, hPlayer, hType⟩
    · exact ⟨handled, _, [], rfl, hNames, List.forall_mem_nil _⟩
    · obtain ⟨before, joined, between, rfl, hNames, hBetween⟩ := h.joined hBefore
      refine ⟨before, joined, between ++ [_], (List.append_assoc _ (joined :: between) _),
        hPlayer ▸ hNames, fun g hg => ?_⟩
      rcases List.mem_append.mp hg with hg | hg
      · exact hBetween g hg
      · rw [List.mem_singleton.mp hg]
        exact hType
  pushed g hg cmdMeta cmd hPush := by
    rcases List.mem_append.mp hg with hg | hg
    · exact (h.pushed g hg cmdMeta cmd hPush).append _
    · rw [List.mem_singleton.mp hg] at hPush
      obtain ⟨hBefore, hPlayer, hType, hParse, hSeq⟩ := hReact.pushed hPush
      obtain ⟨before, joined, between, rfl, hNames, hBetween⟩ := h.joined hBefore
      exact ⟨before, joined, between, _, [], rfl, hPlayer ▸ hNames, hBetween, hType, hParse, hSeq⟩

theorem History.receive {c : Connection γ} {around : Nat → Surroundings} (h : History codec c.session c.handled)
    (bytes : List Byte) : History codec (c.receive codec around bytes).session (c.receive codec around bytes).handled :=
  Connection.receive_invariant (History codec) (fun _ _ _ _ _ _ h hReact => h.react hReact)
    (fun _ _ h => h.close) h bytes

end React

end History

end Symulator.Server
