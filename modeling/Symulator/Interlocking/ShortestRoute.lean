import Symulator.Interlocking.Drivable
import Symulator.Library.ShortestSearch

/-! # Route search is complete and shortest

A node is visited once, whatever direction it is entered from, and expanded away from the node it was entered
from. In a symmetric topology the neighbour passed over is the one entered from, which was visited before.
-/

namespace Symulator.Interlocking

open Symulator.Library Symulator.Engine Symulator.Srk

set_option autoImplicit false

/-- One section or switch lists the other as a neighbour. -/
structure AdjacentNodes (s : EngineState) (x y : UID) : Prop where
  from_traversable : isTraversableNode s x = true
  to_traversable : isTraversableNode s y = true
  listed : y ∈ topologyNeighbors s x {}

section Search

variable {s : EngineState}

/-- All a section or a switch leaves out, entered from a neighbour, is that neighbour. -/
theorem mem_directed {x w y : UID} (hw : w = {} ∨ w ∈ topologyNeighbors s x {})
    (h : y ∈ topologyNeighbors s x {}) : y = w ∨ y ∈ topologyNeighbors s x w := by
  rcases hw with rfl | hw
  · exact Or.inr h
  cases hSection : s.findTrackSection x with
  | some ts =>
    rw [topologyNeighbors_section hSection] at h hw ⊢
    simp only [if_true, List.mem_cons, List.not_mem_nil, or_false] at h hw
    by_cases hZero : w.value = 0
    · rw [if_pos hZero]
      exact Or.inr (by simpa using h)
    rw [if_neg hZero]
    by_cases hA : ts.sideA.neighborUid = w
    · rw [if_pos hA, List.mem_singleton]
      exact h.imp_left fun hy => hy.trans hA
    · have hB : ts.sideB.neighborUid = w := (hw.resolve_left fun hEq => hA hEq.symm).symm
      rw [if_neg hA, if_pos hB, List.mem_singleton]
      exact h.symm.imp_left fun hy => hy.trans hB
  | none =>
    have hOther : isSection s x = false := by rw [isSection, hSection]; rfl
    cases hSwitch : s.findSwitch x with
    | some sw =>
      rw [mem_topologyNeighbors_switch hOther hSwitch] at h ⊢
      by_cases hEq : y = w
      · exact Or.inl hEq
      · exact Or.inr ⟨h.1, hEq⟩
    | none =>
      simp only [topologyNeighbors, hSection, hSwitch] at h
      cases h

theorem follows_adjacentNodes (hSymmetric : Symmetric s) (hUids : ∀ x, isTraversableNode s x = true → x.value ≠ 0) :
    Follows {} (topologyNeighbors s) (isTraversableNode s) (AdjacentNodes s) where
  nonzero x hx := ne_zero_of_value (hUids x hx)
  target x y h := h.to_traversable
  sound x w y hx hy h := ⟨hx, hy, mem_undirected (hUids y hy) h⟩
  covers x w y hw h := by
    refine mem_directed ?_ h.listed
    rcases hw with hw | hw
    · exact Or.inl hw
    · have hBoth := hSymmetric w x (hUids w hw.from_traversable) (hUids x hw.to_traversable) hw.from_traversable
        hw.to_traversable
      exact Or.inr (hBoth.mp hw.listed)

/-- The search for a route comes to an end, finds a path exactly when there is one, and finds a shortest one. What
it remembers when it takes the goal leads back to the start. -/
theorem bfs_shortest (hSymmetric : Symmetric s) (hUids : ∀ x, isTraversableNode s x = true → x.value ≠ 0)
    {start : UID} (hStart : isTraversableNode s start = true) (goal : UID) :
    Halts (topologyNeighbors s) (isTraversableNode s) goal (startSearch {} start) ∧
      ((bfs s start goal).isSome = true ↔ ∃ path, ChainTo (AdjacentNodes s) start goal path) ∧
      (∀ path, bfs s start goal = some path → ShortestChain (AdjacentNodes s) start goal path) ∧
      ∀ fuel st, searchEnd (topologyNeighbors s) (isTraversableNode s) goal fuel (startSearch {} start) = some st →
        ∃ path, ReadBack {} st.prev goal path := by
  have hFollows := follows_adjacentNodes hSymmetric hUids
  have hNodes : ∀ x, isTraversableNode s x = true → x ∈ traversableNodes s := fun _ => mem_traversableNodes
  refine ⟨halts_of_finite hNodes goal _, ?_, ?_, ?_⟩
  · exact search_isSome_iff hFollows hStart hNodes (Nat.succ_le_succ (card_traversableNodes s))
  · intro path hPath
    have hSome := hPath
    rw [bfs, search_eq] at hSome
    obtain ⟨st, hEnd, -⟩ := Option.map_eq_some_iff.mp hSome
    obtain ⟨path', -, hShortest, hFound⟩ := readBack_of_searchEnd hFollows hStart hEnd
    rw [bfs, hFound] at hPath
    exact Option.some.inj hPath ▸ hShortest
  · intro fuel st hEnd
    obtain ⟨path, hBack, -⟩ := readBack_of_searchEnd hFollows hStart hEnd
    exact ⟨path, hBack⟩

end Search

/-- From section 1 the search reaches section 3 over switch 10. -/
theorem bfs_shortest_fork :
    bfs (loadedState forkStation) ⟨1⟩ ⟨3⟩ = some [⟨1⟩, ⟨10⟩, ⟨3⟩] ∧
      ShortestChain (AdjacentNodes (loadedState forkStation)) ⟨1⟩ ⟨3⟩ [⟨1⟩, ⟨10⟩, ⟨3⟩] := by
  have hFound : bfs (loadedState forkStation) ⟨1⟩ ⟨3⟩ = some [⟨1⟩, ⟨10⟩, ⟨3⟩] := by decide +kernel
  have hListed : ∀ x ∈ traversableNodes (loadedState forkStation), x.value ≠ 0 := by decide +kernel
  exact ⟨hFound, (bfs_shortest (symmetric_of_listed (by decide +kernel))
    (fun x hx => hListed x (mem_traversableNodes hx)) (by decide +kernel) ⟨3⟩).2.2.1 _ hFound⟩

end Symulator.Interlocking
