import Symulator.Srk.EngineLoop

/-! # The signals a driver sees

A port lists the signals that face the trains entering from its side. The driver of a train is told the aspect
of the first signal listed at the port by which the train leaves its section, and proceed when there is none.
-/

namespace Symulator.Trains

open Symulator.Library Symulator.Engine Symulator.Srk

set_option autoImplicit false

/-- The signal whose aspect is told to the driver. -/
def toldSignal (state : EngineState) (sec : TrackSection) (fromUid : UID) : Option Signal :=
  (aheadPort sec fromUid).signalUids.findSome? state.findSignal

section Facing

variable {φ : Type}

/-- The train is on section `sec` and section `toUid` comes next. -/
def HeadsFor (state : EngineState) (entry : TrainEntry φ) (sec : TrackSection) (toUid : UID) : Prop :=
  state.findTrackSection entry.sim.currentSectionUid = some sec ∧
    (resolveNextSection state entry.sim.currentSectionUid entry.fromUid).sectionUid = some toUid

def ListedAtPort (state : EngineState) (entry : TrainEntry φ) (toUid signalUid : UID) : Prop :=
  ∃ sec, state.findTrackSection toUid = some sec ∧ ∃ port, (port = sec.sideA ∨ port = sec.sideB) ∧
    port.neighborUid = (resolveNextSection state entry.sim.currentSectionUid entry.fromUid).fromUid ∧
    signalUid ∈ port.signalUids

def ListedAtLeg (state : EngineState) (entry : TrainEntry φ) (sec : TrackSection) (signalUid : UID) : Prop :=
  ∃ sw, state.findSwitch (aheadPort sec entry.fromUid).neighborUid = some sw ∧
    ∃ leg, (leg = sw.trunk ∨ leg = sw.straight ∨ leg = sw.divergent) ∧
      leg.neighborUid = entry.sim.currentSectionUid ∧ signalUid ∈ leg.signalUids

def Faces (state : EngineState) (entry : TrainEntry φ) (sec : TrackSection) (toUid signalUid : UID) : Prop :=
  ListedAtPort state entry toUid signalUid ∨ ListedAtLeg state entry sec signalUid

variable (dynamics : TrainDynamics φ)

/-- The aspect that a tick of the fleet feeds to the driver. -/
def toldAspect (state : EngineState) (entry : TrainEntry φ) (sec : TrackSection) : SignalAspect :=
  (tickInput dynamics state sec entry
    (resolveNextSection state entry.sim.currentSectionUid entry.fromUid)).driverInput.aspect

/-- The driver obeys the signals that face the train, and among them the entry signals of the routes that begin
in the section ahead. -/
structure ObeysFacing (state : EngineState) (entry : TrainEntry φ) : Prop where
  faces : ∀ sec toUid, HeadsFor state entry sec toUid → ∀ sig, toldSignal state sec entry.fromUid = some sig →
    Faces state entry sec toUid sig.uid ∧ sig.uid ∉ (aheadPort sec entry.fromUid).signalUids
  governed : ∀ sec toUid, HeadsFor state entry sec toUid → ∀ route ∈ state.routes.values,
    route.sectionUids.head? = some toUid → ∀ sig, state.findSignal route.fromSignalUid = some sig →
      Faces state entry sec toUid sig.uid → toldAspect dynamics state entry sec = sig.currentAspect

/-- No signal is listed where the train leaves its section. -/
def NoneWhereLeaving (state : EngineState) (entry : TrainEntry φ) (sec : TrackSection) : Prop :=
  ∀ uid ∈ (aheadPort sec entry.fromUid).signalUids, state.findSignal uid = none

/-- The routes that begin in section `toUid` have clear entry signals, if these face the train. -/
def EntriesClear (state : EngineState) (entry : TrainEntry φ) (sec : TrackSection) (toUid : UID) : Prop :=
  ∀ route ∈ state.routes.values, route.sectionUids.head? = some toUid →
    ∀ sig, state.findSignal route.fromSignalUid = some sig → Faces state entry sec toUid sig.uid →
      sig.currentAspect = .s2Proceed

variable {dynamics} {state : EngineState} {entry : TrainEntry φ} {sec : TrackSection}

theorem toldAspect_eq :
    toldAspect dynamics state entry sec =
      ((toldSignal state sec entry.fromUid).map Signal.currentAspect).getD .s2Proceed := by
  simp only [toldAspect, tickInput, aheadSignalAspect, toldSignal]
  cases (aheadPort sec entry.fromUid).signalUids.findSome? state.findSignal <;> rfl

/-- The signal the driver is told of is one that the train leaves behind. -/
theorem mem_of_toldSignal {sig : Signal} (h : toldSignal state sec entry.fromUid = some sig) :
    sig.uid ∈ (aheadPort sec entry.fromUid).signalUids := by
  obtain ⟨uid, hUid, hFind⟩ := List.exists_of_findSome?_eq_some h
  have hKey : sig.uid = uid := KeyedMap.key_of_find hFind
  rw [hKey]
  exact hUid

theorem toldSignal_eq_none :
    toldSignal state sec entry.fromUid = none ↔ NoneWhereLeaving state entry sec := List.findSome?_eq_none_iff

/-- A driver obeys the signals facing the train exactly when no signal is listed at the port it leaves by, and
those that should tell it of a route show proceed. -/
theorem obeysFacing_iff (dynamics : TrainDynamics φ) (state : EngineState) (entry : TrainEntry φ) :
    ObeysFacing dynamics state entry ↔ ∀ sec toUid, HeadsFor state entry sec toUid →
      NoneWhereLeaving state entry sec ∧ EntriesClear state entry sec toUid := by
  have hDefault : ∀ sec, NoneWhereLeaving state entry sec → toldAspect dynamics state entry sec = .s2Proceed := by
    intro sec hNone
    rw [toldAspect_eq, toldSignal_eq_none.mpr hNone]
    rfl
  constructor
  · intro h sec toUid hHeads
    have hNone : NoneWhereLeaving state entry sec := by
      rw [← toldSignal_eq_none]
      cases hTold : toldSignal state sec entry.fromUid with
      | none => rfl
      | some sig => exact absurd (mem_of_toldSignal hTold) (h.faces sec toUid hHeads sig hTold).2
    refine ⟨hNone, fun route hRoute hFirst sig hFind hFaces => ?_⟩
    rw [← h.governed sec toUid hHeads route hRoute hFirst sig hFind hFaces, hDefault sec hNone]
  · intro h
    refine ⟨fun sec toUid hHeads sig hTold => ?_, fun sec toUid hHeads route hRoute hFirst sig hFind hFaces => ?_⟩
    · rw [toldSignal_eq_none.mpr (h sec toUid hHeads).1] at hTold
      cases hTold
    · obtain ⟨hNone, hClear⟩ := h sec toUid hHeads
      rw [hDefault sec hNone, hClear route hRoute hFirst sig hFind hFaces]

end Facing

/-- Section 1 leads to section 2. Signals 21 and 22 face the trains that enter them this way, signals 23 and 24
those that come the other way. -/
def facingStation : ScenarioDir :=
  .station
    [{ uid := .unsigned 1
       sideA := { neighborUid := .unsigned 91, signalUids := [21] }
       sideB := { neighborUid := .unsigned 2, signalUids := [23] } },
      { uid := .unsigned 2
        sideA := { neighborUid := .unsigned 1, signalUids := [22] }
        sideB := { neighborUid := .unsigned 92, signalUids := [24] } }]
    [] [.governing 21 1, .governing 22 2, .governing 23 1, .governing 24 2]

/-- The driver of a train from section 1 to section 2 is told what signal 23 shows behind it. -/
theorem facing_ignored : ¬ ∀ w : World Unit, w.Reachable World.idleTrains → ∀ entry ∈ w.fleet,
    ObeysFacing World.idleTrains w.state entry := by
  intro h
  have hLoaded : (World.start .ml8 facingStation).Loaded := ⟨[facingStation], _, rfl⟩
  obtain ⟨w, -, hReach, hTest⟩ := World.exists_reachable .ml8 facingStation [World.spawnAt 1 91]
    (fun w => w.fleet.any fun entry =>
      (w.state.findTrackSection entry.sim.currentSectionUid).any fun sec =>
        (resolveNextSection w.state entry.sim.currentSectionUid entry.fromUid).sectionUid.isSome &&
          (aheadPort sec entry.fromUid).signalUids.any fun uid => (w.state.findSignal uid).isSome)
    hLoaded (by decide +kernel)
  obtain ⟨entry, hEntry, hOn⟩ := List.any_eq_true.mp hTest
  obtain ⟨sec, hFind, hOn⟩ := (Option.any_eq_true _ _).mp hOn
  obtain ⟨hNext, hListed⟩ := Bool.and_eq_true_iff.mp hOn
  obtain ⟨toUid, hNext⟩ := Option.isSome_iff_exists.mp hNext
  obtain ⟨uid, hUid, hSome⟩ := List.any_eq_true.mp hListed
  have hTold : ∃ sig, toldSignal w.state sec entry.fromUid = some sig := by
    rw [← Option.isSome_iff_exists, toldSignal, List.findSome?_isSome_iff]
    exact ⟨uid, hUid, hSome⟩
  obtain ⟨sig, hTold⟩ := hTold
  exact ((h w hReach entry hEntry).faces sec toUid ⟨hFind, hNext⟩ sig hTold).2 (mem_of_toldSignal hTold)

end Symulator.Trains
