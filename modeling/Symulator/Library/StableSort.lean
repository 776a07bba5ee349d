import Mathlib.Data.List.Perm.Basic

/-! # Sorting by a rank of few values

A stable sort by rank is the classes of equal rank one after the other, each in its old order.
-/

namespace Symulator.Library

set_option autoImplicit false

universe u v

variable {α : Type u} {κ : Type v} (key : α → κ) (rank : κ → Nat)

/-- The stable sort of a list by the rank of the keys. -/
def sortByRank (xs : List α) : List α := xs.mergeSort fun x y => decide (rank (key x) ≤ rank (key y))

variable {key rank}

theorem rank_trans (x y z : α) (hxy : decide (rank (key x) ≤ rank (key y)) = true)
    (hyz : decide (rank (key y) ≤ rank (key z)) = true) : decide (rank (key x) ≤ rank (key z)) = true :=
  decide_eq_true (Nat.le_trans (of_decide_eq_true hxy) (of_decide_eq_true hyz))

theorem rank_total (x y : α) :
    (decide (rank (key x) ≤ rank (key y)) || decide (rank (key y) ≤ rank (key x))) = true := by
  rw [Bool.or_eq_true, decide_eq_true_eq, decide_eq_true_eq]
  exact Nat.le_total _ _

theorem perm_sortByRank (xs : List α) : (sortByRank key rank xs).Perm xs := List.mergeSort_perm _ _

theorem pairwise_sortByRank (xs : List α) :
    (sortByRank key rank xs).Pairwise fun x y => rank (key x) ≤ rank (key y) := by
  have hSorted : (sortByRank key rank xs).Pairwise fun x y => decide (rank (key x) ≤ rank (key y)) = true :=
    List.pairwise_mergeSort rank_trans rank_total xs
  exact hSorted.imp of_decide_eq_true

variable [DecidableEq κ]

theorem filter_sortByRank (xs : List α) (k : κ) :
    (sortByRank key rank xs).filter (fun x => key x = k) = xs.filter fun x => key x = k := by
  have hSame : ∀ x ∈ xs.filter (fun x => key x = k), key x = k := by
    intro x hx
    exact of_decide_eq_true (List.mem_filter.mp hx).2
  have hSub : (xs.filter fun x => key x = k).Sublist (sortByRank key rank xs) := by
    refine List.sublist_mergeSort rank_trans rank_total ?_ List.filter_sublist
    refine List.pairwise_of_forall_mem_list fun x hx y hy => ?_
    rw [hSame x hx, hSame y hy]
    exact decide_eq_true (Nat.le_refl _)
  have hFiltered := hSub.filter fun x => decide (key x = k)
  rw [List.filter_filter] at hFiltered
  simp only [Bool.and_self] at hFiltered
  refine (hFiltered.eq_of_length ?_).symm
  exact ((perm_sortByRank xs).filter _).length_eq.symm

/-- In order of rank the entries of the least rank come first. -/
theorem eq_filter_append {k : κ} {xs : List α} (hKeys : ∀ x ∈ xs, key x = k ∨ rank k < rank (key x))
    (hSorted : xs.Pairwise fun x y => rank (key x) ≤ rank (key y)) :
    xs = xs.filter (fun x => key x = k) ++ xs.filter fun x => key x ≠ k := by
  induction xs with
  | nil => rfl
  | cons x xs ih =>
    obtain ⟨hAfter, hTail⟩ := List.pairwise_cons.mp hSorted
    rcases hKeys x List.mem_cons_self with hx | hHigher
    · have hRest := ih (fun y hy => hKeys y (List.mem_cons_of_mem x hy)) hTail
      rw [List.filter_cons_of_pos (by simp [hx]), List.filter_cons_of_neg (by simp [hx]), List.cons_append]
      exact congrArg (List.cons x) hRest
    · have hNone : ∀ y ∈ x :: xs, key y ≠ k := by
        intro y hy hEq
        have hLe : rank (key x) ≤ rank (key y) := by
          rcases List.mem_cons.mp hy with rfl | hy
          · exact Nat.le_refl _
          · exact hAfter y hy
        rw [hEq] at hLe
        omega
      rw [List.filter_eq_nil_iff.mpr (fun y hy => by simpa using hNone y hy), List.nil_append,
        List.filter_eq_self.mpr (fun y hy => by simpa using hNone y hy)]

theorem eq_flatMap_of_pairwise {ks : List κ} (hRanks : ks.Pairwise fun k l => rank k < rank l) {xs : List α}
    (hKeys : ∀ x ∈ xs, key x ∈ ks) (hSorted : xs.Pairwise fun x y => rank (key x) ≤ rank (key y)) :
    xs = ks.flatMap fun k => xs.filter fun x => key x = k := by
  induction ks generalizing xs with
  | nil =>
    cases xs with
    | nil => rfl
    | cons x xs => cases hKeys x List.mem_cons_self
  | cons k ks ih =>
    obtain ⟨hLess, hRest⟩ := List.pairwise_cons.mp hRanks
    have hLeast : ∀ x ∈ xs, key x = k ∨ rank k < rank (key x) := by
      intro x hx
      exact (List.mem_cons.mp (hKeys x hx)).imp_right (hLess (key x))
    have hLater : (xs.filter fun x => key x ≠ k) = ks.flatMap fun l => xs.filter fun x => key x = l := by
      refine (ih hRest ?_ (hSorted.filter _)).trans (List.flatMap_congr fun l hl => ?_)
      · intro x hx
        obtain ⟨hMem, hOther⟩ := List.mem_filter.mp hx
        exact (List.mem_cons.mp (hKeys x hMem)).resolve_left (of_decide_eq_true hOther)
      · have hApart : l ≠ k := by
          rintro rfl
          exact absurd (hLess l hl) (Nat.lt_irrefl _)
        rw [List.filter_filter]
        refine List.filter_congr fun x _ => ?_
        cases hx : decide (key x = l) with
        | false => rfl
        | true => simp [of_decide_eq_true hx, hApart]
    rw [List.flatMap_cons, ← hLater]
    exact eq_filter_append hLeast hSorted

theorem sortByRank_eq_flatMap {ks : List κ} (hRanks : ks.Pairwise fun k l => rank k < rank l) (hAll : ∀ k, k ∈ ks)
    (xs : List α) : sortByRank key rank xs = ks.flatMap fun k => xs.filter fun x => key x = k := by
  refine (eq_flatMap_of_pairwise hRanks (fun x _ => hAll (key x)) (pairwise_sortByRank xs)).trans ?_
  exact List.flatMap_congr fun k _ => filter_sortByRank xs k

end Symulator.Library
