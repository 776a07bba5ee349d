import Symulator.Fleet.MakeTrainSimState

/-! # Which locomotives pull

Of the operational locomotives of a train all pull, when they are of one type that can be coupled, or only the first.
The loading of the fleet and the simulation both follow this rule.
-/

namespace Symulator.Fleet

open Symulator.Physics

set_option autoImplicit false

section Rule

variable {ι : Type} (vehicleOf : ι → Vehicle)

def coupled (first : ι) (locomotives : List ι) : Bool :=
  (locomotives.all fun l => (vehicleOf l).typeUid = (vehicleOf first).typeUid) &&
    (vehicleOf first).multipleCouplingCapable.getD false

def pulling (locomotives : List ι) : List ι :=
  match locomotives with
  | [] => []
  | first :: rest => if coupled vehicleOf first (first :: rest) then first :: rest else [first]

theorem pulling_sublist (locomotives : List ι) : (pulling vehicleOf locomotives).Sublist locomotives := by
  unfold pulling
  split
  · exact List.Sublist.refl _
  · split
    · exact List.Sublist.refl _
    · exact List.Sublist.cons_cons _ (List.nil_sublist _)

theorem map_pulling (locomotives : List ι) :
    (pulling vehicleOf locomotives).map vehicleOf = pulling id (locomotives.map vehicleOf) := by
  cases locomotives with
  | nil => rfl
  | cons first rest =>
    have hSame : coupled id (vehicleOf first) (vehicleOf first :: rest.map vehicleOf) =
        coupled vehicleOf first (first :: rest) := by
      simp only [coupled, ← List.map_cons, List.all_map, Function.comp_def, id]
    simp only [pulling, List.map_cons, hSame]
    split <;> rfl

end Rule

theorem addLocomotives_eq (consist : TrainConsist) (locomotives : List Vehicle) :
    addLocomotives consist locomotives = (pulling id locomotives).foldl addTraction consist := by
  cases locomotives with
  | nil => rfl
  | cons first rest =>
    cases rest with
    | nil =>
      simp only [pulling, ite_self]
      rfl
    | cons second rest =>
      by_cases hCoupled : coupled id first (first :: second :: rest) = true
      · rw [pulling, if_pos hCoupled]
        exact if_pos hCoupled
      · rw [pulling, if_neg hCoupled]
        exact if_neg hCoupled

theorem setLocomotives_eq (contrib : List VehiclePhysicsContrib) (indices : List (Vehicle × Nat)) :
    setLocomotives contrib indices = (pulling Prod.fst indices).foldl setTraction contrib := by
  cases indices with
  | nil => rfl
  | cons first rest =>
    cases rest with
    | nil =>
      simp only [pulling, ite_self]
      rfl
    | cons second rest =>
      by_cases hCoupled : coupled Prod.fst first (first :: second :: rest) = true
      · rw [pulling, if_pos hCoupled]
        exact if_pos hCoupled
      · rw [pulling, if_neg hCoupled]
        exact if_neg hCoupled

end Symulator.Fleet
