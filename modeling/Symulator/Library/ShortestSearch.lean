import Symulator.Library.Search
import Mathlib.Data.List.Chain

/-! # Breadth-first search finds shortest chains

A search may pass over the node it came from when it expands a node. Where that is all it passes over, it reaches
every node that a chain of links leads to, and by as few links as any chain.
-/

namespace Symulator.Library

set_option autoImplicit false

universe u

section Chains

variable {κ : Type u} (link : κ → κ → Prop)

/-- A chain of links from one node to another, both ends included. -/
structure ChainTo (start goal : κ) (path : List κ) : Prop where
  head : path.head? = some start
  last : path.getLast? = some goal
  links : path.IsChain link

structure ShortestChain (start goal : κ) (path : List κ) : Prop extends ChainTo link start goal path where
  nodup : path.Nodup
  minimal : ∀ other, ChainTo link start goal other → path.length ≤ other.length

variable {link}

theorem ChainTo.snoc {start mid goal : κ} {path : List κ} (h : ChainTo link start mid path) (hLink : link mid goal) :
    ChainTo link start goal (path ++ [goal]) where
  head := by
    cases path with
    | nil => cases h.head
    | cons x xs => exact h.head
  last := List.getLast?_concat
  links := by
    refine h.links.append (List.isChain_singleton _) ?_
    intro x hx y hy
    rw [h.last] at hx
    cases hx
    cases hy
    exact hLink

theorem ChainTo.cases_last {start goal : κ} {path : List κ} (h : ChainTo link start goal path) :
    path = [goal] ∧ start = goal ∨
      ∃ mid before, path = before ++ [goal] ∧ ChainTo link start mid before ∧ link mid goal := by
  obtain ⟨before, rfl⟩ := List.getLast?_eq_some_iff.mp h.last
  cases hLast : before.getLast? with
  | none =>
    rw [List.getLast?_eq_none_iff] at hLast
    subst hLast
    exact Or.inl ⟨rfl, (Option.some.inj h.head).symm⟩
  | some mid =>
    obtain ⟨hLinks, -, hEnd⟩ := List.isChain_append.mp h.links
    refine Or.inr ⟨mid, before, rfl, ⟨?_, hLast, hLinks⟩, hEnd mid hLast goal rfl⟩
    have hHead := h.head
    cases before with
    | nil => cases hLast
    | cons x xs => exact hHead

end Chains

section Search

variable {κ : Type u} [DecidableEq κ] (zero : κ) (neighbors : κ → κ → List κ) (expandable : κ → Bool)

/-- The loop that reads a path back from the predecessors comes to an end, having passed the nodes of the path
from the last to the first. -/
inductive ReadBack (prev : KeyedMap κ (Visit κ)) : κ → List κ → Prop
  | done : ReadBack prev zero []
  | step {v : Visit κ} {path : List κ} (hVisit : prev.find v.node = some v) (hNode : v.node ≠ zero)
      (hBefore : ReadBack prev v.pred path) : ReadBack prev v.node (path ++ [v.node])

/-- The state of the search at which it takes the goal from the queue. -/
def searchEnd (goal : κ) : Nat → Search κ → Option (Search κ)
  | 0, _ => none
  | fuel + 1, st =>
    match st.queue with
    | [] => none
    | ⟨cur, cameFrom⟩ :: rest =>
      if cur = goal then some st
      else searchEnd goal fuel ((neighbors cur cameFrom).foldl (discover expandable cur) { st with queue := rest })

/-- The search comes to an end: nothing is left in the queue, the goal is taken from it, or the search ends after
the expansion of what is taken. -/
inductive Halts (goal : κ) : Search κ → Prop
  | empty {st : Search κ} (hQueue : st.queue = []) : Halts goal st
  | found {st : Search κ} {c : Visit κ} {rest : List (Visit κ)} (hQueue : st.queue = c :: rest)
      (hGoal : c.node = goal) :
    Halts goal st
  | expand {st : Search κ} {c : Visit κ} {rest : List (Visit κ)} (hQueue : st.queue = c :: rest)
      (hOther : c.node ≠ goal)
      (hNext : Halts goal ((neighbors c.node c.pred).foldl (discover expandable c.node) { st with queue := rest })) :
    Halts goal st

/-- What the search passes over of the links of a node is at most the node it came from. -/
structure Follows (link : κ → κ → Prop) : Prop where
  nonzero : ∀ x, expandable x = true → x ≠ zero
  target : ∀ x y, link x y → expandable y = true
  sound : ∀ x w y, expandable x = true → expandable y = true → y ∈ neighbors x w → link x y
  covers : ∀ x w y, w = zero ∨ link w x → link x y → y = w ∨ y ∈ neighbors x w

/-- Nodes are queued in the order of their levels, the number of links they were reached by. -/
structure Levelled (start : κ) (st : Search κ) (expanded : List κ) (level : κ → Nat) : Prop where
  root : level start = 0
  started : start ∈ queuedOrder st expanded
  queued : ∀ v ∈ st.prev.values, expandable v.node = true → v.node ∈ queuedOrder st expanded
  step : ∀ v ∈ st.prev.values, v = ⟨start, zero⟩ ∨ level v.node = level v.pred + 1
  rising : (queuedOrder st expanded).Pairwise fun x y => level x ≤ level y
  narrow : ∀ c rest, st.queue = c :: rest → ∀ x ∈ queuedOrder st expanded, level x ≤ level c.node + 1
  tight : ∀ u ∈ st.prev.values, u.node ∈ expanded → ∀ y ∈ neighbors u.node u.pred, expandable y = true →
    level y ≤ level u.node + 1

variable {zero neighbors expandable}

theorem ReadBack.reconstruct {prev : KeyedMap κ (Visit κ)} {n : κ} {path : List κ} (h : ReadBack zero prev n path)
    {fuel : Nat} (hFuel : path.length < fuel) (rest : List κ) :
    Library.reconstruct zero prev fuel n rest = path ++ rest := by
  induction h generalizing fuel rest with
  | done =>
    cases fuel with
    | zero => cases hFuel
    | succ fuel => rw [Library.reconstruct, if_pos rfl, List.nil_append]
  | @step v path hVisit hNode hBefore ih =>
    rw [List.length_append, List.length_singleton] at hFuel
    cases fuel with
    | zero => cases hFuel
    | succ fuel =>
      simp only [Library.reconstruct, if_neg hNode, hVisit]
      rw [ih (by omega), List.append_assoc, List.singleton_append]

theorem search_eq (goal : κ) (fuel : Nat) (st : Search κ) : search zero neighbors expandable goal fuel st =
    (searchEnd neighbors expandable goal fuel st).map fun st =>
      reconstruct zero st.prev (st.prev.size + 1) goal [] := by
  induction fuel generalizing st with
  | zero => rfl
  | succ fuel ih =>
    cases hQueue : st.queue with
    | nil => simp only [search, searchEnd, hQueue, Option.map_none]
    | cons c rest =>
      simp only [search, searchEnd, hQueue]
      split
      · rfl
      · exact ih _

theorem levelled_startSearch {start : κ} :
    Levelled zero neighbors expandable start (startSearch zero start) [] (fun _ => 0) := by
  have hValues : (startSearch zero start).prev.values = [⟨start, zero⟩] := rfl
  have hOrder : queuedOrder (startSearch zero start) [] = [start] := rfl
  constructor
  case root => rfl
  case started => rw [hOrder]; exact List.mem_singleton_self _
  case queued =>
    intro v hv _
    rw [hValues, List.mem_singleton] at hv
    rw [hv, hOrder]
    exact List.mem_singleton_self _
  case step =>
    intro v hv
    rw [hValues, List.mem_singleton] at hv
    exact Or.inl hv
  case rising => rw [hOrder]; exact List.pairwise_singleton _ _
  case narrow => exact fun _ _ _ _ _ => Nat.zero_le _
  case tight =>
    intro u _ hu
    cases hu

/-! ## Levels rise along the queue -/

section Expand

variable {start : κ} {st st' : Search κ} {expanded : List κ} {level : κ → Nat} {c : Visit κ} {fresh : List (Visit κ)}

/-- The nodes seen for the first time come one level after the node they were reached from. -/
def levelAfter (st : Search κ) (c : Visit κ) (level : κ → Nat) (x : κ) : Nat :=
  if st.prev.find x = none then level c.node + 1 else level x

theorem levelAfter_of_mem {v : Visit κ} (hv : v ∈ st.prev.values) : levelAfter st c level v.node = level v.node :=
  if_neg (by rw [show st.prev.find v.node = some v from KeyedMap.find_key hv]; exact Option.some_ne_none v)

theorem Explored.levelAfter_order (h : Explored zero neighbors expandable start st expanded) {x : κ}
    (hx : x ∈ queuedOrder st expanded) : levelAfter st c level x = level x := by
  obtain ⟨v, hv, rfl⟩ := h.visited x hx
  exact levelAfter_of_mem hv

theorem Expands.levelAfter_fresh (hExpands : Expands neighbors expandable st st' c expanded fresh) {v : Visit κ}
    (hv : v ∈ fresh) : levelAfter st c level v.node = level c.node + 1 := by
  refine if_pos (KeyedMap.find_eq_none_iff.mpr fun w hw => ?_)
  exact hExpands.apart hw hv

theorem Levelled.le_after (h : Explored zero neighbors expandable start st expanded)
    (l : Levelled zero neighbors expandable start st expanded level) {rest : List (Visit κ)}
    (hQueue : st.queue = c :: rest) (hExpands : Expands neighbors expandable st st' c expanded fresh) {x : κ}
    (hx : x ∈ queuedOrder st' (expanded ++ [c.node])) : levelAfter st c level x ≤ level c.node + 1 := by
  rw [hExpands.order] at hx
  rcases List.mem_append.mp hx with hx | hx
  · rw [h.levelAfter_order hx]
    exact l.narrow c rest hQueue x hx
  · obtain ⟨v, hv, rfl⟩ := List.mem_map.mp hx
    exact Nat.le_of_eq (hExpands.levelAfter_fresh (List.mem_filter.mp hv).1)

omit [DecidableEq κ] in
theorem Levelled.head_le (l : Levelled zero neighbors expandable start st expanded level) {rest : List (Visit κ)}
    (hQueue : st.queue = c :: rest) {x : κ} (hx : x ∈ rest.map Visit.node) : level c.node ≤ level x := by
  have hRising := l.rising
  rw [queuedOrder, hQueue, List.map_cons] at hRising
  exact (List.pairwise_cons.mp (List.pairwise_append.mp hRising).2.1).1 x hx

theorem Levelled.head_le_after (h : Explored zero neighbors expandable start st expanded)
    (l : Levelled zero neighbors expandable start st expanded level) {rest : List (Visit κ)}
    (hQueue : st.queue = c :: rest) (hExpands : Expands neighbors expandable st st' c expanded fresh) {c' : Visit κ}
    (hMem : c' ∈ rest ++ fresh.filter fun v => expandable v.node) :
    level c.node ≤ levelAfter st c level c'.node := by
  rcases List.mem_append.mp hMem with hMem | hMem
  · rw [levelAfter_of_mem (h.waiting c' (by rw [hQueue]; exact List.mem_cons_of_mem _ hMem))]
    exact l.head_le hQueue (List.mem_map_of_mem hMem)
  · rw [hExpands.levelAfter_fresh (List.mem_filter.mp hMem).1]
    exact Nat.le_succ _

theorem Levelled.step_after (h : Explored zero neighbors expandable start st expanded)
    (l : Levelled zero neighbors expandable start st expanded level)
    (hExpands : Expands neighbors expandable st st' c expanded fresh) (hc : c ∈ st.prev.values) {v : Visit κ}
    (hv : v ∈ st'.prev.values) :
    v = ⟨start, zero⟩ ∨ levelAfter st c level v.node = levelAfter st c level v.pred + 1 := by
  rw [hExpands.values] at hv
  rcases List.mem_append.mp hv with hv | hv
  · rcases l.step v hv with hRoot | hStep
    · exact Or.inl hRoot
    · rcases h.pred_mem hv with hRoot | hPred
      · exact Or.inl hRoot
      · right
        rw [levelAfter_of_mem hv, h.levelAfter_order (List.mem_append_left _ hPred), hStep]
  · right
    rw [hExpands.levelAfter_fresh hv, (hExpands.entered v hv).1, levelAfter_of_mem hc]

theorem Levelled.rising_after (h : Explored zero neighbors expandable start st expanded)
    (l : Levelled zero neighbors expandable start st expanded level) {rest : List (Visit κ)}
    (hQueue : st.queue = c :: rest) (hExpands : Expands neighbors expandable st st' c expanded fresh) :
    (queuedOrder st' (expanded ++ [c.node])).Pairwise fun x y => levelAfter st c level x ≤ levelAfter st c level y := by
  have hFresh : ∀ x ∈ (fresh.filter fun v => expandable v.node).map Visit.node,
      levelAfter st c level x = level c.node + 1 := by
    intro x hx
    obtain ⟨v, hv, rfl⟩ := List.mem_map.mp hx
    exact hExpands.levelAfter_fresh (List.mem_filter.mp hv).1
  rw [hExpands.order, List.pairwise_append]
  refine ⟨?_, ?_, ?_⟩
  · refine l.rising.imp_of_mem fun hx hy hLe => ?_
    rw [h.levelAfter_order hx, h.levelAfter_order hy]
    exact hLe
  · refine List.pairwise_of_forall_mem_list fun x hx y hy => ?_
    rw [hFresh x hx, hFresh y hy]
  · intro x hx y hy
    rw [h.levelAfter_order hx, hFresh y hy]
    exact l.narrow c rest hQueue x hx

theorem Levelled.tight_after (h : Explored zero neighbors expandable start st expanded)
    (l : Levelled zero neighbors expandable start st expanded level) {rest : List (Visit κ)}
    (hQueue : st.queue = c :: rest)
    (hExpands : Expands neighbors expandable st st' c expanded fresh) {u : Visit κ} (hu : u ∈ st'.prev.values)
    (hMem : u.node ∈ expanded ++ [c.node]) {y : κ} (hy : y ∈ neighbors u.node u.pred)
    (hExpandable : expandable y = true) :
    levelAfter st c level y ≤ levelAfter st c level u.node + 1 := by
  have hc : c ∈ st.prev.values := h.waiting c (by rw [hQueue]; exact List.mem_cons_self)
  have hCur : c.node ∈ queuedOrder st expanded := by
    rw [queuedOrder, hQueue, List.map_cons]
    exact List.mem_append_right _ List.mem_cons_self
  obtain ⟨-, huOld⟩ := hExpands.mem_of_expanded h hCur hu hMem
  rw [levelAfter_of_mem huOld]
  rcases List.mem_append.mp hMem with hMem | hMem
  · obtain ⟨v, hv, rfl, -⟩ := h.closed u huOld hMem y hy
    rw [levelAfter_of_mem hv]
    exact l.tight u huOld hMem v.node hy hExpandable
  · rw [List.mem_singleton.mp hMem]
    obtain ⟨v, hv, rfl⟩ := hExpands.covered y (by
      rwa [KeyedMap.eq_of_key_eq huOld hc (List.mem_singleton.mp hMem)] at hy)
    rw [hExpands.values] at hv
    rcases List.mem_append.mp hv with hv | hv
    · rw [levelAfter_of_mem hv]
      exact l.narrow c rest hQueue v.node (l.queued v hv hExpandable)
    · exact Nat.le_of_eq (hExpands.levelAfter_fresh hv)

theorem Levelled.expand (h : Explored zero neighbors expandable start st expanded)
    (l : Levelled zero neighbors expandable start st expanded level) {rest : List (Visit κ)}
    (hQueue : st.queue = c :: rest) :
    Levelled zero neighbors expandable start
      ((neighbors c.node c.pred).foldl (discover expandable c.node) { st with queue := rest })
      (expanded ++ [c.node]) (levelAfter st c level) := by
  obtain ⟨fresh, hExpands, hNewQueue⟩ := expands_of_queue neighbors expandable hQueue expanded
  have hc : c ∈ st.prev.values := h.waiting c (by rw [hQueue]; exact List.mem_cons_self)
  constructor
  case root => rw [h.levelAfter_order l.started, l.root]
  case started =>
    rw [hExpands.order]
    exact List.mem_append_left _ l.started
  case queued =>
    intro v hv hExpandable
    rw [hExpands.values] at hv
    rw [hExpands.order]
    rcases List.mem_append.mp hv with hv | hv
    · exact List.mem_append_left _ (l.queued v hv hExpandable)
    · exact List.mem_append_right _ (List.mem_map_of_mem (List.mem_filter.mpr ⟨hv, hExpandable⟩))
  case step => exact fun v hv => l.step_after h hExpands hc hv
  case rising => exact l.rising_after h hQueue hExpands
  case narrow =>
    intro c' rest' hQueue' x hx
    have hMem : c' ∈ rest ++ fresh.filter (fun v => expandable v.node) := by
      rw [← hNewQueue, hQueue']
      exact List.mem_cons_self
    exact Nat.le_trans (l.le_after h hQueue hExpands hx) (Nat.succ_le_succ (l.head_le_after h hQueue hExpands hMem))
  case tight => exact fun u hu hMem y hy hExpandable => l.tight_after h hQueue hExpands hu hMem hy hExpandable

end Expand

/-! ## The chain read back, and every other chain -/

section Reached

variable {link : κ → κ → Prop} {start goal : κ} {st : Search κ} {expanded : List κ} {level : κ → Nat}

/-- A node that was reached stands at the root, or was linked to from the node it was reached from. -/
theorem Explored.linked (f : Follows zero neighbors expandable link)
    (h : Explored zero neighbors expandable start st expanded) (hStart : expandable start = true) {v : Visit κ}
    (hv : v ∈ st.prev.values) (hExpandable : expandable v.node = true) :
    v = ⟨start, zero⟩ ∨ v.pred ∈ expanded ∧ link v.pred v.node := by
  rcases h.reached v hv with hRoot | ⟨u, -, hNode, hExpanded, hNext⟩
  · exact Or.inl hRoot
  · have hFrom : expandable u.node = true := by
      rcases h.admitted u.node (List.mem_append_left _ hExpanded) with hEq | hExp
      · rw [hEq]
        exact hStart
      · exact hExp
    exact Or.inr (hNode ▸ ⟨hExpanded, f.sound u.node u.pred v.node hFrom hExpandable hNext⟩)

theorem Explored.expandable_of_order (h : Explored zero neighbors expandable start st expanded)
    (hStart : expandable start = true) {x : κ} (hx : x ∈ queuedOrder st expanded) : expandable x = true := by
  rcases h.admitted x hx with rfl | hExp
  · exact hStart
  · exact hExp

/-- The predecessors of a queued node lead back to the root over one link for each level. -/
theorem exists_readBack (f : Follows zero neighbors expandable link)
    (h : Explored zero neighbors expandable start st expanded)
    (l : Levelled zero neighbors expandable start st expanded level) (hStart : expandable start = true) {n : κ}
    (hn : n ∈ queuedOrder st expanded) : ∃ path, ReadBack zero st.prev n path ∧ ChainTo link start n path ∧
      path.length = level n + 1 ∧ path.length ≤ (queuedOrder st expanded).idxOf n + 1 := by
  induction hIdx : (queuedOrder st expanded).idxOf n using Nat.strong_induction_on generalizing n with
  | _ i ih =>
    obtain ⟨v, hv, rfl⟩ := h.visited n hn
    have hExpandable := h.expandable_of_order hStart hn
    have hFind : st.prev.find v.node = some v := KeyedMap.find_key hv
    have hNode := f.nonzero v.node hExpandable
    rcases h.linked f hStart hv hExpandable with rfl | ⟨hPred, hLink⟩
    · refine ⟨[start], .step hFind hNode .done, ⟨rfl, rfl, List.isChain_singleton _⟩, ?_, by simp⟩
      rw [l.root]
      rfl
    · have hPredOrder : v.pred ∈ queuedOrder st expanded := List.mem_append_left _ hPred
      have hNotRoot : v ≠ ⟨start, zero⟩ := by
        intro hRoot
        rw [hRoot] at hPredOrder
        exact f.nonzero zero (h.expandable_of_order hStart hPredOrder) rfl
      have hLess := (h.earlier v hv hn).resolve_left hNotRoot
      have hLevel := (l.step v hv).resolve_left hNotRoot
      obtain ⟨path, hBack, hChain, hLength, hBound⟩ := ih _ (hIdx ▸ hLess) hPredOrder rfl
      refine ⟨path ++ [v.node], .step hFind hNode hBack, hChain.snoc hLink, ?_, ?_⟩
      · rw [List.length_append, hLength, hLevel]
        rfl
      · rw [List.length_append, List.length_singleton]
        omega

/-- What an expanded node links to has been queued, at most one level later. -/
theorem Levelled.next (f : Follows zero neighbors expandable link)
    (h : Explored zero neighbors expandable start st expanded)
    (l : Levelled zero neighbors expandable start st expanded level) (hStart : expandable start = true) {x y : κ}
    (hx : x ∈ expanded) (hLink : link x y) : y ∈ queuedOrder st expanded ∧ level y ≤ level x + 1 := by
  have hSeen : x ∈ queuedOrder st expanded := List.mem_append_left _ hx
  obtain ⟨u, hu, rfl⟩ := h.visited x hSeen
  have hTarget := f.target u.node y hLink
  have hLinked := h.linked f hStart hu (h.expandable_of_order hStart hSeen)
  have hFrom : u.pred = zero ∨ link u.pred u.node := by
    rcases hLinked with hRoot | ⟨-, hPred⟩
    · exact Or.inl (congrArg Visit.pred hRoot)
    · exact Or.inr hPred
  rcases f.covers u.node u.pred y hFrom hLink with rfl | hNear
  · have hNotRoot : u ≠ ⟨start, zero⟩ := fun hRoot => f.nonzero _ hTarget (congrArg Visit.pred hRoot)
    have hLevel := (l.step u hu).resolve_left hNotRoot
    exact ⟨List.mem_append_left _ (hLinked.resolve_left hNotRoot).1, by omega⟩
  · obtain ⟨v, hv, rfl, -⟩ := h.closed u hu hx y hNear
    exact ⟨l.queued v hv hTarget, l.tight u hu hx v.node hNear hTarget⟩

/-- Where nothing below the level of the head of the queue is waiting, chains are no shorter than levels. -/
theorem Levelled.le_length (f : Follows zero neighbors expandable link)
    (h : Explored zero neighbors expandable start st expanded)
    (l : Levelled zero neighbors expandable start st expanded level) (hStart : expandable start = true) {c : Visit κ}
    {rest : List (Visit κ)} (hQueue : st.queue = c :: rest) {x : κ} {path : List κ} (hPath : ChainTo link start x path)
    (hShort : path.length ≤ level c.node) : x ∈ queuedOrder st expanded ∧ level x + 1 ≤ path.length := by
  induction path using List.reverseRecOn generalizing x with
  | nil => cases hPath.last
  | append_singleton before y ih =>
    rcases hPath.cases_last with ⟨hSingle, rfl⟩ | ⟨mid, before', hSplit, hBefore, hLink⟩
    · rw [hSingle, l.root]
      exact ⟨l.started, Nat.le_refl _⟩
    · obtain ⟨rfl, hLast⟩ := List.append_inj' hSplit rfl
      rw [List.length_append, List.length_singleton] at hShort ⊢
      obtain ⟨hMid, hLevel⟩ := ih hBefore (by omega)
      have hExpanded : mid ∈ expanded := by
        rw [queuedOrder, hQueue, List.map_cons] at hMid
        rcases List.mem_append.mp hMid with hMid | hMid
        · exact hMid
        · exfalso
          have hLe : level c.node ≤ level mid := by
            rcases List.mem_cons.mp hMid with rfl | hMid
            · exact Nat.le_refl _
            · exact l.head_le hQueue hMid
          omega
      obtain ⟨hOrder, hNext⟩ := l.next f h hStart hExpanded hLink
      exact ⟨hOrder, by omega⟩

/-- With nothing waiting, everything a chain leads to has been expanded. -/
theorem Levelled.expanded_of_chain (f : Follows zero neighbors expandable link)
    (h : Explored zero neighbors expandable start st expanded)
    (l : Levelled zero neighbors expandable start st expanded level) (hStart : expandable start = true)
    (hQueue : st.queue = []) {x : κ} {path : List κ} (hPath : ChainTo link start x path) : x ∈ expanded := by
  have hOrder : queuedOrder st expanded = expanded := by
    rw [queuedOrder, hQueue, List.map_nil, List.append_nil]
  induction path using List.reverseRecOn generalizing x with
  | nil => cases hPath.last
  | append_singleton before y ih =>
    rcases hPath.cases_last with ⟨-, rfl⟩ | ⟨mid, before', hSplit, hBefore, hLink⟩
    · rw [← hOrder]
      exact l.started
    · obtain ⟨rfl, -⟩ := List.append_inj' hSplit rfl
      rw [← hOrder]
      exact (l.next f h hStart (ih hBefore) hLink).1

end Reached

/-! ## What a search ends with -/

section Ends

variable {link : κ → κ → Prop} {start goal : κ} {fuel : Nat} {st st' : Search κ} {expanded : List κ} {level : κ → Nat}

theorem exists_of_searchEnd_some (h : Explored zero neighbors expandable start st expanded)
    (l : Levelled zero neighbors expandable start st expanded level)
    (hEnd : searchEnd neighbors expandable goal fuel st = some st') :
    ∃ expanded' level' c rest, Explored zero neighbors expandable start st' expanded' ∧
      Levelled zero neighbors expandable start st' expanded' level' ∧ st'.queue = c :: rest ∧ c.node = goal := by
  induction fuel generalizing st expanded level with
  | zero => cases hEnd
  | succ fuel ih =>
    cases hQueue : st.queue with
    | nil =>
      simp only [searchEnd, hQueue] at hEnd
      cases hEnd
    | cons c rest =>
      simp only [searchEnd, hQueue] at hEnd
      split at hEnd
      · rename_i hGoal
        cases hEnd
        exact ⟨expanded, level, c, rest, h, l, hQueue, hGoal⟩
      · exact ih (h.expand hQueue) (l.expand h hQueue) hEnd

theorem halts_of_finite {nodes : Finset κ} (hNodes : ∀ x, expandable x = true → x ∈ nodes) (goal : κ)
    (st : Search κ) : Halts neighbors expandable goal st := by
  induction hPending : pending nodes st using Nat.strong_induction_on generalizing st with
  | _ n ih =>
    cases hQueue : st.queue with
    | nil => exact .empty hQueue
    | cons c rest =>
      by_cases hGoal : c.node = goal
      · exact .found hQueue hGoal
      · exact .expand hQueue hGoal (ih _ (hPending ▸ pending_pop hNodes hQueue _) _ rfl)

/-- With a step for each node that may be queued the search gives up only when nothing is left. -/
theorem exists_of_searchEnd_none {nodes : Finset κ} (hNodes : ∀ x, expandable x = true → x ∈ nodes)
    (hFuel : pending nodes st ≤ fuel) (h : Explored zero neighbors expandable start st expanded)
    (l : Levelled zero neighbors expandable start st expanded level) (hGoal : goal ∉ expanded)
    (hEnd : searchEnd neighbors expandable goal fuel st = none) :
    ∃ st' expanded' level', Explored zero neighbors expandable start st' expanded' ∧
      Levelled zero neighbors expandable start st' expanded' level' ∧ st'.queue = [] ∧ goal ∉ expanded' := by
  induction fuel generalizing st expanded level with
  | zero => exact ⟨st, expanded, level, h, l, queue_eq_nil hFuel, hGoal⟩
  | succ fuel ih =>
    cases hQueue : st.queue with
    | nil => exact ⟨st, expanded, level, h, l, hQueue, hGoal⟩
    | cons c rest =>
      simp only [searchEnd, hQueue] at hEnd
      split at hEnd
      · cases hEnd
      · rename_i hOther
        have hLess := pending_pop hNodes hQueue (neighbors c.node c.pred)
        refine ih (by omega) (h.expand hQueue) (l.expand h hQueue) ?_ hEnd
        intro hMem
        rcases List.mem_append.mp hMem with hMem | hMem
        · exact hGoal hMem
        · exact hOther (List.mem_singleton.mp hMem).symm

/-- Where the goal is taken from the queue, reading the path back comes to an end with a shortest chain. -/
theorem readBack_of_searchEnd (f : Follows zero neighbors expandable link) (hStart : expandable start = true)
    (hEnd : searchEnd neighbors expandable goal fuel (startSearch zero start) = some st') :
    ∃ path, ReadBack zero st'.prev goal path ∧ ShortestChain link start goal path ∧
      search zero neighbors expandable goal fuel (startSearch zero start) = some path := by
  obtain ⟨expanded, level, c, rest, h, l, hQueue, rfl⟩ :=
    exists_of_searchEnd_some (explored_startSearch start) levelled_startSearch hEnd
  have hOrder : c.node ∈ queuedOrder st' expanded := by
    rw [queuedOrder, hQueue]
    exact List.mem_append_right _ List.mem_cons_self
  obtain ⟨path, hBack, hChain, hLength, hBound⟩ := exists_readBack f h l hStart hOrder
  have hFound : search zero neighbors expandable c.node fuel (startSearch zero start) = some path := by
    have hIdx := List.idxOf_lt_length_of_mem hOrder
    have hSize := h.length_le
    rw [search_eq, hEnd, Option.map_some, hBack.reconstruct (by omega), List.append_nil]
  refine ⟨path, hBack, ⟨hChain, (search_startSearch hFound).nodup, ?_⟩, hFound⟩
  intro other hOther
  by_contra hShorter
  have hLevel := (l.le_length f h hStart hQueue hOther (by omega)).2
  omega

/-- A search with enough fuel finds a path exactly when a chain leads to the goal. -/
theorem search_isSome_iff (f : Follows zero neighbors expandable link) (hStart : expandable start = true)
    {nodes : Finset κ} (hNodes : ∀ x, expandable x = true → x ∈ nodes) (hFuel : nodes.card + 1 ≤ fuel) :
    (search zero neighbors expandable goal fuel (startSearch zero start)).isSome = true ↔
      ∃ path, ChainTo link start goal path := by
  constructor
  · intro hSome
    rw [search_eq, Option.isSome_map] at hSome
    obtain ⟨st', hEnd⟩ := Option.isSome_iff_exists.mp hSome
    obtain ⟨path, -, hShortest, -⟩ := readBack_of_searchEnd f hStart hEnd
    exact ⟨path, hShortest.toChainTo⟩
  · rintro ⟨path, hPath⟩
    rw [search_eq, Option.isSome_map]
    cases hEnd : searchEnd neighbors expandable goal fuel (startSearch zero start) with
    | some st' => rfl
    | none =>
      obtain ⟨st', expanded, level, h, l, hQueue, hGoal⟩ := exists_of_searchEnd_none hNodes
        (Nat.le_trans (pending_startSearch start) hFuel) (explored_startSearch start) levelled_startSearch
        (fun hMem => nomatch hMem) hEnd
      exact absurd (l.expanded_of_chain f h hStart hQueue hPath) hGoal

end Ends

end Search

end Symulator.Library
