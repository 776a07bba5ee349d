import Symulator.Library.Enumeration
import Symulator.Srk.ControlSystem

/-! # Commands from the wire

A command comes as a type byte and a FlatBuffers table. Positions and states are converted value by value, all other
enumerations are cast: the byte in the table becomes the byte of the variable, whether it names an enumerator or not.
-/

namespace Symulator.Server

open Symulator.Library Symulator.Engine Symulator.Srk

set_option autoImplicit false

/-! ## The enumerations of the engine -/

instance : Enumeration SwitchPosition where
  count := 4
  index := SwitchPosition.ctorIdx
  ofIndex := SwitchPosition.ofNat
  index_lt e := by cases e <;> decide
  index_ofIndex := by decide
  ofIndex_index := SwitchPosition.ofNat_ctorIdx
  count_le := by decide

instance : Enumeration SignalAspect where
  count := 17
  index := SignalAspect.ctorIdx
  ofIndex := SignalAspect.ofNat
  index_lt e := by cases e <;> decide
  index_ofIndex := by decide
  ofIndex_index := SignalAspect.ofNat_ctorIdx
  count_le := by decide

instance : Enumeration DerailerState where
  count := 2
  index := DerailerState.ctorIdx
  ofIndex := DerailerState.ofNat
  index_lt e := by cases e <;> decide
  index_ofIndex := by decide
  ofIndex_index := DerailerState.ofNat_ctorIdx
  count_le := by decide

instance : Enumeration BlockSectionState where
  count := 2
  index := BlockSectionState.ctorIdx
  ofIndex := BlockSectionState.ofNat
  index_lt e := by cases e <;> decide
  index_ofIndex := by decide
  ofIndex_index := BlockSectionState.ofNat_ctorIdx
  count_le := by decide

instance : Enumeration Shl12Op where
  count := 7
  index := Shl12Op.ctorIdx
  ofIndex := Shl12Op.ofNat
  index_lt e := by cases e <;> decide
  index_ofIndex := by decide
  ofIndex_index := Shl12Op.ofNat_ctorIdx
  count_le := by decide

instance : Enumeration OperatorTargetKind where
  count := 11
  index := OperatorTargetKind.ctorIdx
  ofIndex := OperatorTargetKind.ofNat
  index_lt e := by cases e <;> decide
  index_ofIndex := by decide
  ofIndex_index := OperatorTargetKind.ofNat_ctorIdx
  count_le := by decide

instance : Enumeration OperatorCommandCode where
  count := 74
  index := OperatorCommandCode.ctorIdx
  ofIndex := OperatorCommandCode.ofNat
  index_lt e := by cases e <;> decide
  index_ofIndex := by decide
  ofIndex_index := OperatorCommandCode.ofNat_ctorIdx
  count_le := by decide

instance : Enumeration Ml8CommandCode where
  count := 71
  index := Ml8CommandCode.ctorIdx
  ofIndex := Ml8CommandCode.ofNat
  index_lt e := by cases e <;> decide
  index_ofIndex := by decide
  ofIndex_index := Ml8CommandCode.ofNat_ctorIdx
  count_le := by decide

open Enumeration (value IsDeclared enumerator?)

/-! ## Tables of `commands.fbs` -/

namespace Proto

structure SetSwitchPosition where
  uid : UInt64 := 0
  position : Byte := 0

structure SetSignalAspect where
  uid : UInt64 := 0
  aspect : Byte := 0

structure SetDerailerPosition where
  uid : UInt64 := 0
  position : Byte := 0

structure SetBlockSection where
  uid : UInt64 := 0
  state : Byte := 0

structure RequestRoute where
  fromSignalUid : UInt64 := 0
  toSignalUid : UInt64 := 0

structure CancelRoute where
  routeUid : UInt64 := 0

structure AcknowledgeAlarm where
  alarmUid : UInt64 := 0

structure SetBlockDirection where
  blockSectionUid : UInt64 := 0
  operation : Byte := 0

structure InitAxleCounterReset where
  blockSectionUid : UInt64 := 0

structure ResetAxleCounter where
  blockSectionUid : UInt64 := 0

structure OperatorCommand where
  targetUid : UInt64 := 0
  targetKind : Byte := 0
  commandCode : Byte := 0

structure Ml8Command where
  targetUid : UInt64 := 0
  targetKind : Byte := 0
  commandCode : Byte := 0

end Proto

/-- What FlatBuffers makes of the bytes of a table: its fields, where the bytes verify. An enumeration is read as
the byte that is there. -/
structure CommandTables where
  setSwitchPosition : List Byte → Option Proto.SetSwitchPosition := fun _ => none
  setSignalAspect : List Byte → Option Proto.SetSignalAspect := fun _ => none
  setDerailerPosition : List Byte → Option Proto.SetDerailerPosition := fun _ => none
  setBlockSection : List Byte → Option Proto.SetBlockSection := fun _ => none
  requestRoute : List Byte → Option Proto.RequestRoute := fun _ => none
  cancelRoute : List Byte → Option Proto.CancelRoute := fun _ => none
  acknowledgeAlarm : List Byte → Option Proto.AcknowledgeAlarm := fun _ => none
  setBlockDirection : List Byte → Option Proto.SetBlockDirection := fun _ => none
  initAxleCounterReset : List Byte → Option Proto.InitAxleCounterReset := fun _ => none
  resetAxleCounter : List Byte → Option Proto.ResetAxleCounter := fun _ => none
  operatorCommand : List Byte → Option Proto.OperatorCommand := fun _ => none
  ml8Command : List Byte → Option Proto.Ml8Command := fun _ => none

/-! ## Commands as the engine holds them -/

/-- A command whose enumerations are the bytes that their variables hold. -/
inductive HeldCommand
  | setSwitchPosition (uid : UID) (position : Byte)
  | setSignalAspect (uid : UID) (aspect : Byte)
  | setDerailerPosition (uid : UID) (position : Byte)
  | setBlockSection (uid : UID) (state : Byte)
  | requestRoute (fromSignalUid toSignalUid : UID)
  | cancelRoute (routeUid : UID) (force : Bool)
  | acknowledgeAlarm (alarmUid : UID)
  | setBlockDirection (blockSectionUid : UID) (operation : Byte)
  | initAxleCounterReset (blockSectionUid : UID)
  | resetAxleCounter (blockSectionUid : UID)
  | operatorCommand (targetUid : UID) (targetKind code : Byte)
  | ml8Command (targetUid : UID) (targetKind code : Byte)
deriving DecidableEq

/-- The bytes of a command whose enumerations hold enumerators. -/
def held : Command → HeldCommand
  | .setSwitchPosition cmd => .setSwitchPosition cmd.uid (value cmd.position)
  | .setSignalAspect cmd => .setSignalAspect cmd.uid (value cmd.aspect)
  | .setDerailerPosition cmd => .setDerailerPosition cmd.uid (value cmd.position)
  | .setBlockSection cmd => .setBlockSection cmd.uid (value cmd.state)
  | .requestRoute cmd => .requestRoute cmd.fromSignalUid cmd.toSignalUid
  | .cancelRoute cmd => .cancelRoute cmd.routeUid cmd.force
  | .acknowledgeAlarm cmd => .acknowledgeAlarm cmd.alarmUid
  | .setBlockDirection cmd => .setBlockDirection cmd.blockSectionUid (value cmd.operation)
  | .initAxleCounterReset cmd => .initAxleCounterReset cmd.blockSectionUid
  | .resetAxleCounter cmd => .resetAxleCounter cmd.blockSectionUid
  | .operatorCommand cmd => .operatorCommand cmd.targetUid (value cmd.targetKind) (value cmd.code)
  | .ml8Command cmd => .ml8Command cmd.targetUid (value cmd.targetKind) (value cmd.code)

namespace HeldCommand

/-- Every enumeration of the command holds an enumerator. -/
def WellFormed : HeldCommand → Prop
  | .setSwitchPosition _ position => IsDeclared SwitchPosition position
  | .setSignalAspect _ aspect => IsDeclared SignalAspect aspect
  | .setDerailerPosition _ position => IsDeclared DerailerState position
  | .setBlockSection _ state => IsDeclared BlockSectionState state
  | .setBlockDirection _ operation => IsDeclared Shl12Op operation
  | .operatorCommand _ targetKind code => IsDeclared OperatorTargetKind targetKind ∧ IsDeclared OperatorCommandCode code
  | .ml8Command _ targetKind code => IsDeclared OperatorTargetKind targetKind ∧ IsDeclared Ml8CommandCode code
  | .requestRoute .. | .cancelRoute .. | .acknowledgeAlarm .. | .initAxleCounterReset .. | .resetAxleCounter .. => True

theorem wellFormed_iff_held {cmd : HeldCommand} : cmd.WellFormed ↔ ∃ c : Command, held c = cmd := by
  constructor
  · intro h
    cases cmd with
    | setSwitchPosition uid position =>
      obtain ⟨e, rfl⟩ := Enumeration.isDeclared_iff.mp h
      exact ⟨.setSwitchPosition ⟨uid, e⟩, rfl⟩
    | setSignalAspect uid aspect =>
      obtain ⟨e, rfl⟩ := Enumeration.isDeclared_iff.mp h
      exact ⟨.setSignalAspect ⟨uid, e⟩, rfl⟩
    | setDerailerPosition uid position =>
      obtain ⟨e, rfl⟩ := Enumeration.isDeclared_iff.mp h
      exact ⟨.setDerailerPosition ⟨uid, e⟩, rfl⟩
    | setBlockSection uid state =>
      obtain ⟨e, rfl⟩ := Enumeration.isDeclared_iff.mp h
      exact ⟨.setBlockSection ⟨uid, e⟩, rfl⟩
    | requestRoute fromSignalUid toSignalUid => exact ⟨.requestRoute ⟨fromSignalUid, toSignalUid⟩, rfl⟩
    | cancelRoute routeUid force => exact ⟨.cancelRoute ⟨routeUid, force⟩, rfl⟩
    | acknowledgeAlarm alarmUid => exact ⟨.acknowledgeAlarm ⟨alarmUid⟩, rfl⟩
    | setBlockDirection blockSectionUid operation =>
      obtain ⟨e, rfl⟩ := Enumeration.isDeclared_iff.mp h
      exact ⟨.setBlockDirection ⟨blockSectionUid, e⟩, rfl⟩
    | initAxleCounterReset blockSectionUid => exact ⟨.initAxleCounterReset ⟨blockSectionUid⟩, rfl⟩
    | resetAxleCounter blockSectionUid => exact ⟨.resetAxleCounter ⟨blockSectionUid⟩, rfl⟩
    | operatorCommand targetUid targetKind code =>
      obtain ⟨kind, rfl⟩ := Enumeration.isDeclared_iff.mp h.1
      obtain ⟨e, rfl⟩ := Enumeration.isDeclared_iff.mp h.2
      exact ⟨.operatorCommand ⟨targetUid, kind, e⟩, rfl⟩
    | ml8Command targetUid targetKind code =>
      obtain ⟨kind, rfl⟩ := Enumeration.isDeclared_iff.mp h.1
      obtain ⟨e, rfl⟩ := Enumeration.isDeclared_iff.mp h.2
      exact ⟨.ml8Command ⟨targetUid, kind, e⟩, rfl⟩
  · rintro ⟨c, rfl⟩
    cases c with
    | operatorCommand cmd => exact ⟨Enumeration.isDeclared_value _, Enumeration.isDeclared_value _⟩
    | ml8Command cmd => exact ⟨Enumeration.isDeclared_value _, Enumeration.isDeclared_value _⟩
    | setSwitchPosition cmd => exact Enumeration.isDeclared_value cmd.position
    | setSignalAspect cmd => exact Enumeration.isDeclared_value cmd.aspect
    | setDerailerPosition cmd => exact Enumeration.isDeclared_value cmd.position
    | setBlockSection cmd => exact Enumeration.isDeclared_value cmd.state
    | setBlockDirection cmd => exact Enumeration.isDeclared_value cmd.operation
    | requestRoute cmd => trivial
    | cancelRoute cmd => trivial
    | acknowledgeAlarm cmd => trivial
    | initAxleCounterReset cmd => trivial
    | resetAxleCounter cmd => trivial

end HeldCommand

/-! ## Parsing -/

namespace Cmd

def kSetSwitchPosition : Byte := 0x01
def kSetSignalAspect : Byte := 0x02
def kSetDerailerPosition : Byte := 0x03
def kSetBlockSection : Byte := 0x04
def kRequestRoute : Byte := 0x05
def kCancelRoute : Byte := 0x06
def kAcknowledgeAlarm : Byte := 0x07
def kSetBlockDirection : Byte := 0x08
def kInitAxleCounterReset : Byte := 0x09
def kResetAxleCounter : Byte := 0x0A
def kOperatorCommand : Byte := 0x20
def kMl8Command : Byte := 0x21

end Cmd

def uidOf (n : UInt64) : UID := ⟨n.toNat⟩

def fromProtoSwitchPosition (p : Byte) : SwitchPosition :=
  if p = 0 then .straight else if p = 1 then .divergent else .straight

def fromProtoDerailerPosition (p : Byte) : DerailerState := if p = 1 then .unlocked else .locked

def fromProtoBlockSectionState (s : Byte) : BlockSectionState := if s = 0 then .open else .closed

namespace CommandIngress

variable (tables : CommandTables)

/-- A table with an object gives a command. -/
def commandOf {τ : Type} (table : Option τ) (uid : τ → UInt64) (make : τ → HeldCommand) : Option HeldCommand :=
  match table with
  | none => none
  | some msg => if uid msg = 0 then none else some (make msg)

def parseCommand (cmdType : Byte) (fbData : List Byte) : Option HeldCommand :=
  if cmdType = Cmd.kSetSwitchPosition then
    commandOf (tables.setSwitchPosition fbData) (·.uid)
      fun msg => .setSwitchPosition (uidOf msg.uid) (value (fromProtoSwitchPosition msg.position))
  else if cmdType = Cmd.kSetSignalAspect then
    commandOf (tables.setSignalAspect fbData) (·.uid) fun msg => .setSignalAspect (uidOf msg.uid) msg.aspect
  else if cmdType = Cmd.kSetDerailerPosition then
    commandOf (tables.setDerailerPosition fbData) (·.uid)
      fun msg => .setDerailerPosition (uidOf msg.uid) (value (fromProtoDerailerPosition msg.position))
  else if cmdType = Cmd.kSetBlockSection then
    commandOf (tables.setBlockSection fbData) (·.uid)
      fun msg => .setBlockSection (uidOf msg.uid) (value (fromProtoBlockSectionState msg.state))
  else if cmdType = Cmd.kRequestRoute then
    match tables.requestRoute fbData with
    | none => none
    | some msg =>
      if msg.fromSignalUid = 0 ∨ msg.toSignalUid = 0 then none
      else some (.requestRoute (uidOf msg.fromSignalUid) (uidOf msg.toSignalUid))
  else if cmdType = Cmd.kCancelRoute then
    commandOf (tables.cancelRoute fbData) (·.routeUid) fun msg => .cancelRoute (uidOf msg.routeUid) false
  else if cmdType = Cmd.kAcknowledgeAlarm then
    commandOf (tables.acknowledgeAlarm fbData) (·.alarmUid) fun msg => .acknowledgeAlarm (uidOf msg.alarmUid)
  else if cmdType = Cmd.kSetBlockDirection then
    commandOf (tables.setBlockDirection fbData) (·.blockSectionUid)
      fun msg => .setBlockDirection (uidOf msg.blockSectionUid) msg.operation
  else if cmdType = Cmd.kInitAxleCounterReset then
    commandOf (tables.initAxleCounterReset fbData) (·.blockSectionUid)
      fun msg => .initAxleCounterReset (uidOf msg.blockSectionUid)
  else if cmdType = Cmd.kResetAxleCounter then
    commandOf (tables.resetAxleCounter fbData) (·.blockSectionUid)
      fun msg => .resetAxleCounter (uidOf msg.blockSectionUid)
  else if cmdType = Cmd.kOperatorCommand then
    commandOf (tables.operatorCommand fbData) (·.targetUid)
      fun msg => .operatorCommand (uidOf msg.targetUid) msg.targetKind msg.commandCode
  else if cmdType = Cmd.kMl8Command then
    commandOf (tables.ml8Command fbData) (·.targetUid)
      fun msg => .ml8Command (uidOf msg.targetUid) msg.targetKind msg.commandCode
  else none

def parsePayload : List Byte → Option HeldCommand
  | [] => none
  | cmdType :: fbData => parseCommand tables cmdType fbData

/-- The check of a direction command, whatever byte its operation is: the switch has no case for a byte that names no
operation. -/
def checkSetBlockDirectionHeld (state : EngineState) (uid : UID) (operation : Byte) : Option InterlockingViolation :=
  match state.findBlockSection uid with
  | none => violation nakNotFound ("Block section not found: " ++ uidStr uid) uid
  | some _ =>
    match enumerator? Shl12Op operation with
    | some operation => checkSetBlockDirection state ⟨uid, operation⟩
    | none => none

theorem checkSetBlockDirectionHeld_value (state : EngineState) (cmd : SetBlockDirectionCmd) :
    checkSetBlockDirectionHeld state cmd.blockSectionUid (value cmd.operation) = checkSetBlockDirection state cmd := by
  rw [checkSetBlockDirectionHeld, Enumeration.enumerator?_value]
  cases hFind : state.findBlockSection cmd.blockSectionUid with
  | none => simp only [checkSetBlockDirection, hFind]
  | some bs => rfl

/-- An operation that is none is accepted for every block section there is. -/
theorem checkSetBlockDirectionHeld_of_unknown {state : EngineState} {uid : UID} {operation : Byte}
    (h : ¬ IsDeclared Shl12Op operation) :
    checkSetBlockDirectionHeld state uid operation = none ↔ (state.findBlockSection uid).isSome = true := by
  rw [checkSetBlockDirectionHeld, Enumeration.enumerator?_eq_none.mpr h]
  cases state.findBlockSection uid with
  | none => simp [violation]
  | some bs => simp

/-- What enters the engine is well formed, and no direction command with an unknown operation is accepted. -/
def EntersWellFormed (payload : List Byte) : Prop :=
  ∀ cmd, parsePayload tables payload = some cmd → cmd.WellFormed ∧
    ∀ state uid operation, cmd = .setBlockDirection uid operation → ¬ IsDeclared Shl12Op operation →
      checkSetBlockDirectionHeld state uid operation ≠ none

/-- The bytes that a payload has for the enumerations that are cast name enumerators. -/
def CastsDeclared : List Byte → Prop
  | [] => True
  | cmdType :: fbData =>
    (cmdType = Cmd.kSetSignalAspect → ∀ msg ∈ tables.setSignalAspect fbData, msg.uid ≠ 0 →
      IsDeclared SignalAspect msg.aspect) ∧
    (cmdType = Cmd.kSetBlockDirection → ∀ msg ∈ tables.setBlockDirection fbData, msg.blockSectionUid ≠ 0 →
      IsDeclared Shl12Op msg.operation) ∧
    (cmdType = Cmd.kOperatorCommand → ∀ msg ∈ tables.operatorCommand fbData, msg.targetUid ≠ 0 →
      IsDeclared OperatorTargetKind msg.targetKind ∧ IsDeclared OperatorCommandCode msg.commandCode) ∧
    (cmdType = Cmd.kMl8Command → ∀ msg ∈ tables.ml8Command fbData, msg.targetUid ≠ 0 →
      IsDeclared OperatorTargetKind msg.targetKind ∧ IsDeclared Ml8CommandCode msg.commandCode)

variable {tables}

theorem commandOf_eq_some {τ : Type} {table : Option τ} {uid : τ → UInt64} {make : τ → HeldCommand}
    {cmd : HeldCommand} :
    commandOf table uid make = some cmd ↔ ∃ msg ∈ table, uid msg ≠ 0 ∧ make msg = cmd := by
  unfold commandOf
  cases table with
  | none => simp
  | some msg =>
    by_cases hUid : uid msg = 0
    · simp [hUid]
    · simp [hUid]

theorem wellFormed_commandOf {τ : Type} {table : Option τ} {uid : τ → UInt64} {make : τ → HeldCommand} :
    (∀ cmd, commandOf table uid make = some cmd → cmd.WellFormed) ↔
      ∀ msg ∈ table, uid msg ≠ 0 → (make msg).WellFormed := by
  constructor
  · intro h msg hMsg hUid
    exact h _ (commandOf_eq_some.mpr ⟨msg, hMsg, hUid, rfl⟩)
  · intro h cmd hCmd
    obtain ⟨msg, hMsg, hUid, rfl⟩ := commandOf_eq_some.mp hCmd
    exact h msg hMsg hUid

theorem wellFormed_of_commandOf {τ : Type} {table : Option τ} {uid : τ → UInt64} {make : τ → HeldCommand}
    {cmd : HeldCommand} (h : commandOf table uid make = some cmd) (hMake : ∀ msg, (make msg).WellFormed) :
    cmd.WellFormed :=
  wellFormed_commandOf.mpr (fun msg _ _ => hMake msg) cmd h

/-- A command type that casts nothing gives well-formed commands only. -/
theorem wellFormed_of_parseCommand {cmdType : Byte} {fbData : List Byte} {cmd : HeldCommand}
    (hSignal : cmdType ≠ Cmd.kSetSignalAspect) (hDirection : cmdType ≠ Cmd.kSetBlockDirection)
    (hOperator : cmdType ≠ Cmd.kOperatorCommand) (hMl8 : cmdType ≠ Cmd.kMl8Command)
    (h : parseCommand tables cmdType fbData = some cmd) : cmd.WellFormed := by
  simp only [parseCommand, if_neg hSignal, if_neg hDirection, if_neg hOperator, if_neg hMl8] at h
  split at h
  · exact wellFormed_of_commandOf h fun msg => Enumeration.isDeclared_value _
  split at h
  · exact wellFormed_of_commandOf h fun msg => Enumeration.isDeclared_value _
  split at h
  · exact wellFormed_of_commandOf h fun msg => Enumeration.isDeclared_value _
  split at h
  · cases hMsg : tables.requestRoute fbData with
    | none => simp [hMsg] at h
    | some msg =>
      simp only [hMsg] at h
      split at h
      · contradiction
      · cases h
        trivial
  split at h
  · exact wellFormed_of_commandOf h fun msg => trivial
  split at h
  · exact wellFormed_of_commandOf h fun msg => trivial
  split at h
  · exact wellFormed_of_commandOf h fun msg => trivial
  split at h
  · exact wellFormed_of_commandOf h fun msg => trivial
  · contradiction

theorem wellFormed_parseCommand {cmdType : Byte} {fbData : List Byte} :
    (∀ cmd, parseCommand tables cmdType fbData = some cmd → cmd.WellFormed) ↔
      CastsDeclared tables (cmdType :: fbData) := by
  by_cases hSignal : cmdType = Cmd.kSetSignalAspect
  · subst hSignal
    have hParse : parseCommand tables Cmd.kSetSignalAspect fbData =
        commandOf (tables.setSignalAspect fbData) (·.uid) fun msg => .setSignalAspect (uidOf msg.uid) msg.aspect := rfl
    rw [hParse, wellFormed_commandOf]
    simp [CastsDeclared, HeldCommand.WellFormed, Cmd.kSetSignalAspect, Cmd.kSetBlockDirection, Cmd.kOperatorCommand,
      Cmd.kMl8Command]
  by_cases hDirection : cmdType = Cmd.kSetBlockDirection
  · subst hDirection
    have hParse : parseCommand tables Cmd.kSetBlockDirection fbData =
        commandOf (tables.setBlockDirection fbData) (·.blockSectionUid)
          fun msg => .setBlockDirection (uidOf msg.blockSectionUid) msg.operation := rfl
    rw [hParse, wellFormed_commandOf]
    simp [CastsDeclared, HeldCommand.WellFormed, Cmd.kSetSignalAspect, Cmd.kSetBlockDirection, Cmd.kOperatorCommand,
      Cmd.kMl8Command]
  by_cases hOperator : cmdType = Cmd.kOperatorCommand
  · subst hOperator
    have hParse : parseCommand tables Cmd.kOperatorCommand fbData =
        commandOf (tables.operatorCommand fbData) (·.targetUid)
          fun msg => .operatorCommand (uidOf msg.targetUid) msg.targetKind msg.commandCode := rfl
    rw [hParse, wellFormed_commandOf]
    simp [CastsDeclared, HeldCommand.WellFormed, Cmd.kSetSignalAspect, Cmd.kSetBlockDirection, Cmd.kOperatorCommand,
      Cmd.kMl8Command]
  by_cases hMl8 : cmdType = Cmd.kMl8Command
  · subst hMl8
    have hParse : parseCommand tables Cmd.kMl8Command fbData =
        commandOf (tables.ml8Command fbData) (·.targetUid)
          fun msg => .ml8Command (uidOf msg.targetUid) msg.targetKind msg.commandCode := rfl
    rw [hParse, wellFormed_commandOf]
    simp [CastsDeclared, HeldCommand.WellFormed, Cmd.kSetSignalAspect, Cmd.kSetBlockDirection, Cmd.kOperatorCommand,
      Cmd.kMl8Command]
  · constructor
    · intro _
      exact ⟨(absurd · hSignal), (absurd · hDirection), (absurd · hOperator), (absurd · hMl8)⟩
    · intro _ cmd hCmd
      exact wellFormed_of_parseCommand hSignal hDirection hOperator hMl8 hCmd

/-- A payload brings only what is well formed if and only if its cast bytes name enumerators. -/
theorem entersWellFormed_iff (tables : CommandTables) (payload : List Byte) :
    EntersWellFormed tables payload ↔ CastsDeclared tables payload := by
  cases payload with
  | nil => exact iff_of_true (fun cmd hCmd => nomatch hCmd) trivial
  | cons cmdType fbData =>
    rw [← wellFormed_parseCommand]
    constructor
    · intro h cmd hCmd
      exact (h cmd hCmd).1
    · intro h cmd hCmd
      refine ⟨h cmd hCmd, ?_⟩
      rintro state uid operation rfl hUnknown
      exact absurd (h _ hCmd) hUnknown

/-! A direction command whose operation is the byte 7, and the table behind its bytes. -/

def unknownOperation : List Byte :=
  [0x08, 12, 0, 0, 0, 8, 0, 13, 0, 4, 0, 12, 0, 8, 0, 0, 0, 1, 0, 0, 0, 0, 0, 0, 0, 7]

/-- The reader of a table of block section and operation, laid out one after the other. -/
def flatTables : CommandTables where
  setBlockDirection fbData :=
    if fbData.take 16 = [12, 0, 0, 0, 8, 0, 13, 0, 4, 0, 12, 0, 8, 0, 0, 0] ∧ fbData.length = 25 then
      some ⟨⟨leWord 64 ((fbData.drop 16).take 8)⟩, fbData.getD 24 0⟩
    else none

def oneBlock : EngineState := EngineState.insertBlockSection {} { uid := ⟨1⟩ }

theorem unknownOperation_accepted :
    parsePayload flatTables unknownOperation = some (.setBlockDirection ⟨1⟩ 7) ∧
      checkSetBlockDirectionHeld oneBlock ⟨1⟩ 7 = none ∧ ¬ EntersWellFormed flatTables unknownOperation := by
  have hParse : parsePayload flatTables unknownOperation = some (.setBlockDirection ⟨1⟩ 7) := by decide
  refine ⟨hParse, by decide, ?_⟩
  intro h
  exact absurd (h _ hParse).1 (by decide : ¬ IsDeclared Shl12Op 7)

end CommandIngress

end Symulator.Server
