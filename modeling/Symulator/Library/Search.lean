import Symulator.Library.KeyedMap
import Mathlib.Data.Finset.Card
import Mathlib.Data.List.Perm.Subperm

/-! # Breadth-first search that remembers where it came from

The neighbours of a node may depend on the node it was entered from. Every node is visited once,
with the predecessor it was first reached from, and only some of the visited nodes are expanded.
The path found is read off the predecessors, from the goal back to the root, whose predecessor is
a reserved value.
-/

namespace Symulator.Library

set_option autoImplicit false

universe u

structure Visit (κ : Type u) where
  node : κ
  pred : κ
deriving DecidableEq

instance (κ : Type u) : Keyed κ (Visit κ) := ⟨Visit.node⟩

structure Search (κ : Type u) where
  prev : KeyedMap κ (Visit κ)
  queue : List (Visit κ)

section Search

variable {κ : Type u} [DecidableEq κ] (zero : κ) (neighbors : κ → κ → List κ) (expandable : κ → Bool)

def discover (cur : κ) (st : Search κ) (next : κ) : Search κ :=
  if st.prev.find next = none then
    { prev := st.prev.emplace ⟨next, cur⟩
      queue := if expandable next then st.queue ++ [⟨next, cur⟩] else st.queue }
  else st

def reconstruct (prev : KeyedMap κ (Visit κ)) : Nat → κ → List κ → List κ
  | 0, _, path => path
  | fuel + 1, n, path =>
    if n = zero then path
    else
      match prev.find n with
      | none => path
      | some visit => reconstruct prev fuel visit.pred (n :: path)

def search (goal : κ) : Nat → Search κ → Option (List κ)
  | 0, _ => none
  | fuel + 1, st =>
    match st.queue with
    | [] => none
    | ⟨cur, cameFrom⟩ :: rest =>
      if cur = goal then some (reconstruct zero st.prev (st.prev.size + 1) goal [])
      else search goal fuel ((neighbors cur cameFrom).foldl (discover expandable cur) { st with queue := rest })

def startSearch (start : κ) : Search κ where
  prev := KeyedMap.empty.emplace ⟨start, zero⟩
  queue := [⟨start, zero⟩]

/-- Continuation of a walk that stands at `x`, entered from `w`: each node is a neighbour of the one
before it, and none of the nodes after that was within reach from there. -/
def Walk : κ → κ → List κ → Prop
  | _, _, [] => True
  | w, x, y :: ys => y ∈ neighbors x w ∧ (∀ z ∈ ys, z ∉ neighbors x w) ∧ Walk x y ys

def WalkFrom (w : κ) : List κ → Prop
  | [] => True
  | x :: xs => Walk neighbors w x xs

variable {zero neighbors}

theorem values_discover (cur next : κ) (st : Search κ) :
    ∃ fresh : List (Visit κ), (discover expandable cur st next).prev.values = st.prev.values ++ fresh ∧
      (discover expandable cur st next).queue = st.queue ++ fresh.filter (fun v => expandable v.node) ∧
      (∀ v ∈ fresh, v = ⟨next, cur⟩) ∧
      ∃ v ∈ (discover expandable cur st next).prev.values, v.node = next := by
  unfold discover
  split
  · rename_i hNone
    refine ⟨[⟨next, cur⟩], KeyedMap.values_emplace hNone, ?_, ?_, ⟨next, cur⟩, ?_, rfl⟩
    · cases hExp : expandable next <;> simp [hExp]
    · intro v hv
      exact List.mem_singleton.mp hv
    · rw [KeyedMap.values_emplace hNone]
      exact List.mem_append_right _ (List.mem_singleton_self _)
  · rename_i hSome
    obtain ⟨v, hv⟩ := Option.ne_none_iff_exists'.mp hSome
    have hMem := KeyedMap.find_eq_some_iff.mp hv
    refine ⟨[], ?_, ?_, ?_, v, hMem.1, hMem.2⟩
    · rw [List.append_nil]
    · rw [List.filter_nil, List.append_nil]
    · intro v hv
      cases hv

/-- Expanding a node visits all its neighbours and queues the new ones that can be expanded. -/
theorem values_expand (cur : κ) (ns : List κ) (st : Search κ) :
    ∃ fresh : List (Visit κ),
      (ns.foldl (discover expandable cur) st).prev.values = st.prev.values ++ fresh ∧
      (ns.foldl (discover expandable cur) st).queue =
        st.queue ++ fresh.filter (fun v => expandable v.node) ∧
      (∀ v ∈ fresh, v.pred = cur ∧ v.node ∈ ns) ∧
      ∀ y ∈ ns, ∃ v ∈ (ns.foldl (discover expandable cur) st).prev.values, v.node = y := by
  induction ns generalizing st with
  | nil =>
    refine ⟨[], ?_, ?_, ?_, ?_⟩
    · rw [List.append_nil]
      rfl
    · rw [List.filter_nil, List.append_nil]
      rfl
    · intro v hv
      cases hv
    · intro y hy
      cases hy
  | cons n ns ih =>
    obtain ⟨first, hValues₁, hQueue₁, hFirst, hFound⟩ :=
      values_discover expandable cur n st
    obtain ⟨later, hValues₂, hQueue₂, hLater, hAll⟩ := ih (discover expandable cur st n)
    rw [List.foldl_cons]
    refine ⟨first ++ later, ?_, ?_, ?_, ?_⟩
    · rw [hValues₂, hValues₁, List.append_assoc]
    · rw [hQueue₂, hQueue₁, List.filter_append, List.append_assoc]
    · intro v hv
      rcases List.mem_append.mp hv with hv | hv
      · rw [hFirst v hv]
        exact ⟨rfl, List.mem_cons_self⟩
      · exact ⟨(hLater v hv).1, List.mem_cons_of_mem _ (hLater v hv).2⟩
    · intro y hy
      rcases List.mem_cons.mp hy with rfl | hy
      · obtain ⟨v, hv, hNode⟩ := hFound
        refine ⟨v, ?_, hNode⟩
        rw [hValues₂]
        exact List.mem_append_left _ hv
      · exact hAll y hy

/-! ## The loop invariant -/

variable (zero neighbors)

/-- The nodes that were ever queued, oldest first: those expanded so far, then the waiting ones. -/
def queuedOrder (st : Search κ) (expanded : List κ) : List κ := expanded ++ st.queue.map Visit.node

/-- `expanded` lists the nodes taken from the queue so far. A visit other than the root's comes from
an expanded node that was queued earlier, and the neighbours of an expanded node were all reached
from it or from a node queued before it. -/
structure Explored (start : κ) (st : Search κ) (expanded : List κ) : Prop where
  root : ⟨start, zero⟩ ∈ st.prev.values
  nodup : (queuedOrder st expanded).Nodup
  waiting : ∀ v ∈ st.queue, v ∈ st.prev.values
  visited : ∀ x ∈ queuedOrder st expanded, ∃ v ∈ st.prev.values, v.node = x
  reached : ∀ v ∈ st.prev.values, v = ⟨start, zero⟩ ∨
    ∃ u ∈ st.prev.values, u.node = v.pred ∧ u.node ∈ expanded ∧ v.node ∈ neighbors u.node u.pred
  earlier : ∀ v ∈ st.prev.values, v.node ∈ queuedOrder st expanded → v = ⟨start, zero⟩ ∨
    (queuedOrder st expanded).idxOf v.pred < (queuedOrder st expanded).idxOf v.node
  closed : ∀ u ∈ st.prev.values, u.node ∈ expanded → ∀ y ∈ neighbors u.node u.pred,
    ∃ v ∈ st.prev.values, v.node = y ∧ (v = ⟨start, zero⟩ ∨
      (queuedOrder st expanded).idxOf v.pred ≤ (queuedOrder st expanded).idxOf u.node)
  admitted : ∀ x ∈ queuedOrder st expanded, x = start ∨ expandable x = true

variable {zero neighbors expandable}

theorem explored_startSearch (start : κ) :
    Explored zero neighbors expandable start (startSearch zero start) [] := by
  have hValues : (startSearch zero start).prev.values = [⟨start, zero⟩] := rfl
  have hOrder : queuedOrder (startSearch zero start) [] = [start] := rfl
  constructor
  case root => rw [hValues]; exact List.mem_singleton_self _
  case nodup => rw [hOrder]; exact List.nodup_singleton _
  case waiting => intro v hv; exact hv
  case visited =>
    intro x hx
    rw [hOrder, List.mem_singleton] at hx
    exact ⟨⟨start, zero⟩, by rw [hValues]; exact List.mem_singleton_self _, hx.symm⟩
  case reached =>
    intro v hv
    rw [hValues, List.mem_singleton] at hv
    exact Or.inl hv
  case earlier =>
    intro v hv _
    rw [hValues, List.mem_singleton] at hv
    exact Or.inl hv
  case closed =>
    intro u _ hu
    cases hu
  case admitted =>
    intro x hx
    rw [hOrder, List.mem_singleton] at hx
    exact Or.inl hx

section Step

variable {start : κ} {st : Search κ} {expanded : List κ}

theorem Explored.pred_mem (h : Explored zero neighbors expandable start st expanded) {v : Visit κ}
    (hv : v ∈ st.prev.values) : v = ⟨start, zero⟩ ∨ v.pred ∈ expanded := by
  rcases h.reached v hv with hRoot | ⟨u, _, hNode, hExp, _⟩
  · exact Or.inl hRoot
  · exact Or.inr (hNode ▸ hExp)

variable (neighbors expandable) in
/-- What an expansion of `c` adds: the visits `fresh`, all from `c`, of which some are queued. -/
structure Expands (st st' : Search κ) (c : Visit κ) (expanded : List κ) (fresh : List (Visit κ)) : Prop where
  values : st'.prev.values = st.prev.values ++ fresh
  order : queuedOrder st' (expanded ++ [c.node]) =
    queuedOrder st expanded ++ (fresh.filter (fun v => expandable v.node)).map Visit.node
  entered : ∀ v ∈ fresh, v.pred = c.node ∧ v.node ∈ neighbors c.node c.pred
  covered : ∀ y ∈ neighbors c.node c.pred, ∃ v ∈ st'.prev.values, v.node = y

variable (neighbors expandable) in
theorem expands_of_queue {c : Visit κ} {rest : List (Visit κ)} (hQueue : st.queue = c :: rest) (expanded : List κ) :
    ∃ fresh, Expands neighbors expandable st
      ((neighbors c.node c.pred).foldl (discover expandable c.node) { st with queue := rest }) c expanded fresh ∧
      ((neighbors c.node c.pred).foldl (discover expandable c.node) { st with queue := rest }).queue =
        rest ++ fresh.filter (fun v => expandable v.node) := by
  obtain ⟨fresh, hValues, hNewQueue, hFresh, hAll⟩ :=
    values_expand expandable c.node (neighbors c.node c.pred) { st with queue := rest }
  refine ⟨fresh, ⟨hValues, ?_, hFresh, hAll⟩, hNewQueue⟩
  simp only [queuedOrder, hNewQueue, hQueue, List.map_append, List.map_cons, List.append_assoc,
    List.cons_append, List.nil_append]

section Expansion

variable {st' : Search κ} {c : Visit κ} {fresh : List (Visit κ)}
  (hExpands : Expands neighbors expandable st st' c expanded fresh)

include hExpands

omit [DecidableEq κ] in
theorem Expands.mem_old {v : Visit κ} (hv : v ∈ st.prev.values) : v ∈ st'.prev.values := by
  rw [hExpands.values]
  exact List.mem_append_left _ hv

omit [DecidableEq κ] in
theorem Expands.nodup_keys : ((st.prev.values ++ fresh).map Visit.node).Nodup := by
  rw [← hExpands.values]
  exact st'.prev.nodup

omit [DecidableEq κ] in
theorem Expands.apart {v w : Visit κ} (hv : v ∈ st.prev.values) (hw : w ∈ fresh) : v.node ≠ w.node := by
  have hKeys := hExpands.nodup_keys
  rw [List.map_append] at hKeys
  exact (List.nodup_append.mp hKeys).2.2 v.node (List.mem_map_of_mem hv) w.node (List.mem_map_of_mem hw)

theorem Expands.unseen (h : Explored zero neighbors expandable start st expanded) {w : Visit κ} (hw : w ∈ fresh) :
    w.node ∉ queuedOrder st expanded := by
  intro hMem
  obtain ⟨v, hv, hNode⟩ := h.visited w.node hMem
  exact hExpands.apart hv hw hNode

theorem Expands.idxOf_eq {x : κ} (hx : x ∈ queuedOrder st expanded) :
    (queuedOrder st' (expanded ++ [c.node])).idxOf x = (queuedOrder st expanded).idxOf x := by
  rw [hExpands.order, List.idxOf_append_of_mem hx]

theorem Expands.nodup (h : Explored zero neighbors expandable start st expanded) :
    (queuedOrder st' (expanded ++ [c.node])).Nodup := by
  have hKeys := hExpands.nodup_keys
  rw [hExpands.order, List.nodup_append]
  refine ⟨h.nodup, ?_, ?_⟩
  · rw [List.map_append, List.nodup_append] at hKeys
    exact (List.filter_sublist.map _).nodup hKeys.2.1
  · intro x hx y hy heq
    obtain ⟨w, hw, rfl⟩ := List.mem_map.mp hy
    exact hExpands.unseen h (List.mem_filter.mp hw).1 (heq ▸ hx)

theorem Expands.earlier (h : Explored zero neighbors expandable start st expanded)
    (hCur : c.node ∈ queuedOrder st expanded) {v : Visit κ} (hv : v ∈ st'.prev.values)
    (hMem : v.node ∈ queuedOrder st' (expanded ++ [c.node])) : v = ⟨start, zero⟩ ∨
    (queuedOrder st' (expanded ++ [c.node])).idxOf v.pred < (queuedOrder st' (expanded ++ [c.node])).idxOf v.node := by
  rw [hExpands.values] at hv
  rcases List.mem_append.mp hv with hv | hv
  · have hSeen : v.node ∈ queuedOrder st expanded := by
      rw [hExpands.order] at hMem
      rcases List.mem_append.mp hMem with hMem | hMem
      · exact hMem
      · obtain ⟨w, hw, hNode⟩ := List.mem_map.mp hMem
        exact absurd hNode.symm (hExpands.apart hv (List.mem_filter.mp hw).1)
    rcases h.earlier v hv hSeen with hRoot | hLt
    · exact Or.inl hRoot
    · rcases h.pred_mem hv with hRoot | hPred
      · exact Or.inl hRoot
      · right
        rw [hExpands.idxOf_eq (List.mem_append_left _ hPred), hExpands.idxOf_eq hSeen]
        exact hLt
  · right
    have hLt := List.idxOf_lt_length_of_mem hCur
    rw [(hExpands.entered v hv).1, hExpands.idxOf_eq hCur, hExpands.order,
      List.idxOf_append_of_notMem (hExpands.unseen h hv)]
    omega

/-- The nodes expanded so far, the current one included, were visited before this expansion. -/
theorem Expands.mem_of_expanded (h : Explored zero neighbors expandable start st expanded)
    (hCur : c.node ∈ queuedOrder st expanded) {u : Visit κ} (hu : u ∈ st'.prev.values)
    (hMem : u.node ∈ expanded ++ [c.node]) : u.node ∈ queuedOrder st expanded ∧ u ∈ st.prev.values := by
  have hSeen : u.node ∈ queuedOrder st expanded := by
    rcases List.mem_append.mp hMem with hMem | hMem
    · exact List.mem_append_left _ hMem
    · rw [List.mem_singleton.mp hMem]
      exact hCur
  refine ⟨hSeen, ?_⟩
  rw [hExpands.values] at hu
  rcases List.mem_append.mp hu with hu | hu
  · exact hu
  · exact absurd hSeen (hExpands.unseen h hu)

theorem Expands.closed (h : Explored zero neighbors expandable start st expanded) (hc : c ∈ st.prev.values)
    (hCur : c.node ∈ queuedOrder st expanded)
    (hCurIdx : ∀ x ∈ expanded, (queuedOrder st expanded).idxOf x < (queuedOrder st expanded).idxOf c.node)
    {u : Visit κ} (hu : u ∈ st'.prev.values) (hMem : u.node ∈ expanded ++ [c.node]) {y : κ}
    (hy : y ∈ neighbors u.node u.pred) : ∃ v ∈ st'.prev.values, v.node = y ∧ (v = ⟨start, zero⟩ ∨
      (queuedOrder st' (expanded ++ [c.node])).idxOf v.pred ≤
        (queuedOrder st' (expanded ++ [c.node])).idxOf u.node) := by
  obtain ⟨hSeen, huOld⟩ := hExpands.mem_of_expanded h hCur hu hMem
  rcases List.mem_append.mp hMem with hMem | hMem
  · obtain ⟨v, hv, hNode, hBefore⟩ := h.closed u huOld hMem y hy
    refine ⟨v, hExpands.mem_old hv, hNode, ?_⟩
    rcases h.pred_mem hv with hRoot | hPred
    · exact Or.inl hRoot
    · rw [hExpands.idxOf_eq (List.mem_append_left _ hPred), hExpands.idxOf_eq hSeen]
      exact hBefore
  · have huc : u = c := KeyedMap.eq_of_key_eq huOld hc (List.mem_singleton.mp hMem)
    subst huc
    obtain ⟨v, hv, hNode⟩ := hExpands.covered y hy
    refine ⟨v, hv, hNode, ?_⟩
    rw [hExpands.values] at hv
    rcases List.mem_append.mp hv with hv | hv
    · rcases h.pred_mem hv with hRoot | hPred
      · exact Or.inl hRoot
      · right
        rw [hExpands.idxOf_eq (List.mem_append_left _ hPred), hExpands.idxOf_eq hSeen]
        exact Nat.le_of_lt (hCurIdx _ hPred)
    · right
      rw [(hExpands.entered v hv).1]

end Expansion

theorem Explored.expand (h : Explored zero neighbors expandable start st expanded) {c : Visit κ}
    {rest : List (Visit κ)} (hQueue : st.queue = c :: rest) :
    Explored zero neighbors expandable start
      ((neighbors c.node c.pred).foldl (discover expandable c.node) { st with queue := rest })
      (expanded ++ [c.node]) := by
  obtain ⟨fresh, hExpands, hNewQueue⟩ :=
    expands_of_queue neighbors expandable hQueue expanded
  have hc : c ∈ st.prev.values := h.waiting c (by rw [hQueue]; exact List.mem_cons_self)
  have hCur : c.node ∈ queuedOrder st expanded := by
    rw [queuedOrder, hQueue]
    exact List.mem_append_right _ List.mem_cons_self
  have hCurIdx : ∀ x ∈ expanded, (queuedOrder st expanded).idxOf x < (queuedOrder st expanded).idxOf c.node := by
    intro x hx
    have hNew : c.node ∉ expanded := by
      intro hMem
      have hNodup := h.nodup
      rw [queuedOrder, hQueue] at hNodup
      exact (List.nodup_append.mp hNodup).2.2 _ hMem _ List.mem_cons_self rfl
    have hx' := List.idxOf_lt_length_of_mem hx
    rw [queuedOrder, List.idxOf_append_of_mem hx, List.idxOf_append_of_notMem hNew]
    omega
  constructor
  case root => exact hExpands.mem_old h.root
  case nodup => exact hExpands.nodup h
  case waiting =>
    intro v hv
    rw [hNewQueue] at hv
    rcases List.mem_append.mp hv with hv | hv
    · exact hExpands.mem_old (h.waiting v (by rw [hQueue]; exact List.mem_cons_of_mem _ hv))
    · rw [hExpands.values]
      exact List.mem_append_right _ (List.mem_filter.mp hv).1
  case visited =>
    intro x hx
    rw [hExpands.order] at hx
    rcases List.mem_append.mp hx with hx | hx
    · obtain ⟨v, hv, hNode⟩ := h.visited x hx
      exact ⟨v, hExpands.mem_old hv, hNode⟩
    · obtain ⟨w, hw, rfl⟩ := List.mem_map.mp hx
      refine ⟨w, ?_, rfl⟩
      rw [hExpands.values]
      exact List.mem_append_right _ (List.mem_filter.mp hw).1
  case reached =>
    intro v hv
    rw [hExpands.values] at hv
    rcases List.mem_append.mp hv with hv | hv
    · rcases h.reached v hv with hRoot | ⟨u, hu, hNode, hExp, hNext⟩
      · exact Or.inl hRoot
      · exact Or.inr ⟨u, hExpands.mem_old hu, hNode, List.mem_append_left _ hExp, hNext⟩
    · obtain ⟨hPred, hNext⟩ := hExpands.entered v hv
      exact Or.inr ⟨c, hExpands.mem_old hc, hPred.symm, List.mem_append_right _ List.mem_cons_self, hNext⟩
  case earlier => exact fun v hv hMem => hExpands.earlier h hCur hv hMem
  case closed => exact fun u hu hMem y hy => hExpands.closed h hc hCur hCurIdx hu hMem hy
  case admitted =>
    intro x hx
    rw [hExpands.order] at hx
    rcases List.mem_append.mp hx with hx | hx
    · exact h.admitted x hx
    · obtain ⟨w, hw, rfl⟩ := List.mem_map.mp hx
      exact Or.inr (List.mem_filter.mp hw).2

end Step

/-! ## The path read off the predecessors -/

variable (zero neighbors)

/-- `path` leads to the goal and continues from the node `n`, which is its predecessor. -/
structure Traced (st : Search κ) (expanded : List κ) (goal n : κ) (path : List κ) : Prop where
  walk : ∀ y ys, path = y :: ys → Walk neighbors n y ys
  link : ∀ y ys, path = y :: ys → ∃ v ∈ st.prev.values, v.node = y ∧ v.pred = n
  chain : ∀ z ∈ path.tail, ∃ v ∈ st.prev.values, v.node = z ∧ v.pred ∈ path
  later : ∀ z ∈ path, z ∈ queuedOrder st expanded ∧ z ≠ zero ∧
    (n ≠ zero → (queuedOrder st expanded).idxOf n < (queuedOrder st expanded).idxOf z)
  nodup : path.Nodup
  last : path.getLast? = some goal ∨ path = [] ∧ n = goal

variable {zero neighbors}

section Trace

variable {start goal : κ} {st : Search κ} {expanded : List κ}

/-- With the node before it a walk is still one: what the new node links to later on was reached from elsewhere. -/
theorem Traced.walk_cons (h : Explored zero neighbors expandable start st expanded) {v : Visit κ} {path : List κ}
    (hv : v ∈ st.prev.values) (hZero : v.node ≠ zero) (hPath : Traced zero neighbors st expanded goal v.node path) :
    Walk neighbors v.pred v.node path := by
  cases path with
  | nil => trivial
  | cons y ys =>
    obtain ⟨vy, hvy, hNode, hPred⟩ := hPath.link y ys rfl
    obtain hRoot | ⟨u, hu, huNode, huExp, hNext⟩ := h.reached vy hvy
    · rw [hRoot] at hPred
      exact absurd hPred.symm hZero
    · have huv : u = v := KeyedMap.eq_of_key_eq hu hv (huNode.trans hPred)
      rw [huv] at hNext huExp
      refine ⟨hNode ▸ hNext, ?_, hPath.walk y ys rfl⟩
      -- a later node of the path was reached from a node queued after `v`
      intro z hz hNear
      obtain ⟨vz, hvz, hzNode, hzPred⟩ := hPath.chain z hz
      obtain ⟨vz', hvz', hzNode', hWhen⟩ := h.closed v hv huExp z hNear
      have hSame : vz' = vz := KeyedMap.eq_of_key_eq hvz' hvz (hzNode'.trans hzNode.symm)
      obtain ⟨_, hPredZero, hAfter⟩ := hPath.later vz.pred hzPred
      rcases hWhen with hRoot | hLe
      · rw [← hSame, hRoot] at hPredZero
        exact hPredZero rfl
      · rw [hSame] at hLe
        have := hAfter hZero
        omega

theorem Traced.step (h : Explored zero neighbors expandable start st expanded) {v : Visit κ}
    {path : List κ} (hv : v ∈ st.prev.values) (hOrder : v.node ∈ queuedOrder st expanded)
    (hZero : v.node ≠ zero) (hPath : Traced zero neighbors st expanded goal v.node path) :
    Traced zero neighbors st expanded goal v.pred (v.node :: path) := by
  have hBefore : v.pred ≠ zero →
      (queuedOrder st expanded).idxOf v.pred < (queuedOrder st expanded).idxOf v.node := by
    intro hPred
    rcases h.earlier v hv hOrder with rfl | hLt
    · exact absurd rfl hPred
    · exact hLt
  constructor
  case walk =>
    intro x xs hCons
    obtain ⟨rfl, rfl⟩ := List.cons.inj hCons
    exact hPath.walk_cons h hv hZero
  case link =>
    intro x xs hCons
    obtain ⟨rfl, rfl⟩ := List.cons.inj hCons
    exact ⟨v, hv, rfl, rfl⟩
  case chain =>
    intro z hz
    rw [List.tail_cons] at hz
    cases path with
    | nil => cases hz
    | cons y ys =>
      rcases List.mem_cons.mp hz with rfl | hz
      · obtain ⟨vz, hvz, hNode, hPred⟩ := hPath.link z ys rfl
        exact ⟨vz, hvz, hNode, hPred ▸ List.mem_cons_self⟩
      · obtain ⟨vz, hvz, hNode, hPred⟩ := hPath.chain z hz
        exact ⟨vz, hvz, hNode, List.mem_cons_of_mem _ hPred⟩
  case later =>
    intro z hz
    rcases List.mem_cons.mp hz with rfl | hz
    · exact ⟨hOrder, hZero, hBefore⟩
    · obtain ⟨hzOrder, hzZero, hAfter⟩ := hPath.later z hz
      refine ⟨hzOrder, hzZero, fun hPred => ?_⟩
      have h₁ := hBefore hPred
      have h₂ := hAfter hZero
      omega
  case nodup =>
    refine List.nodup_cons.mpr ⟨fun hMem => ?_, hPath.nodup⟩
    have := (hPath.later v.node hMem).2.2 hZero
    omega
  case last =>
    left
    rcases hPath.last with hLast | ⟨hNil, hGoal⟩
    · cases path with
      | nil => cases hLast
      | cons y ys => rw [List.getLast?_cons_cons, hLast]
    · rw [hNil, hGoal]
      rfl

/-- Reading back from a queued node ends at the reserved value with the whole path. -/
theorem Traced.reconstruct (h : Explored zero neighbors expandable start st expanded) {fuel : Nat} {n : κ}
    {path : List κ} (hPath : Traced zero neighbors st expanded goal n path)
    (hFuel : n ≠ zero → n ∈ queuedOrder st expanded ∧ (queuedOrder st expanded).idxOf n < fuel) :
    Traced zero neighbors st expanded goal zero (reconstruct zero st.prev fuel n path) := by
  induction fuel generalizing n path with
  | zero =>
    by_cases hn : n = zero
    · subst hn
      exact hPath
    · exact absurd (hFuel hn).2 (Nat.not_lt_zero _)
  | succ fuel ih =>
    by_cases hn : n = zero
    · subst hn
      rw [Library.reconstruct, if_pos rfl]
      exact hPath
    · obtain ⟨hOrder, hLt⟩ := hFuel hn
      obtain ⟨v, hv, rfl⟩ := h.visited n hOrder
      have hFind : st.prev.find v.node = some v := KeyedMap.find_key hv
      rw [Library.reconstruct, if_neg hn, hFind]
      refine ih (hPath.step h hv hOrder hn) ?_
      intro hPred
      rcases h.earlier v hv hOrder with rfl | hBefore
      · exact absurd rfl hPred
      · rcases h.pred_mem hv with rfl | hMem
        · exact absurd rfl hPred
        · exact ⟨List.mem_append_left _ hMem, by omega⟩

end Trace

/-! ## What a search returns -/

variable (zero neighbors expandable)

structure FoundPath (start goal : κ) (path : List κ) : Prop where
  walk : WalkFrom neighbors zero path
  nodup : path.Nodup
  nonzero : zero ∉ path
  last : path.getLast? = some goal ∨ path = [] ∧ zero = goal
  admitted : ∀ x ∈ path, x = start ∨ expandable x = true

variable {zero neighbors expandable}

theorem Explored.length_le {start : κ} {st : Search κ} {expanded : List κ}
    (h : Explored zero neighbors expandable start st expanded) :
    (queuedOrder st expanded).length ≤ st.prev.size := by
  have hSub : queuedOrder st expanded ⊆ st.prev.values.map Visit.node := by
    intro x hx
    obtain ⟨v, hv, rfl⟩ := h.visited x hx
    exact List.mem_map_of_mem hv
  have hLe := (List.subperm_of_subset h.nodup hSub).length_le
  rwa [List.length_map] at hLe

theorem search_found {start goal : κ} {fuel : Nat} {st : Search κ} {expanded path : List κ}
    (h : Explored zero neighbors expandable start st expanded)
    (hSearch : search zero neighbors expandable goal fuel st = some path) :
    FoundPath zero neighbors expandable start goal path := by
  induction fuel generalizing st expanded with
  | zero => cases hSearch
  | succ fuel ih =>
    cases hQueue : st.queue with
    | nil =>
      simp only [search, hQueue] at hSearch
      cases hSearch
    | cons c rest =>
      obtain ⟨cur, cameFrom⟩ := c
      simp only [search, hQueue] at hSearch
      split at hSearch
      · rename_i hGoal
        subst hGoal
        cases hSearch
        have hCur : cur ∈ queuedOrder st expanded := by
          rw [queuedOrder, hQueue]
          exact List.mem_append_right _ List.mem_cons_self
        have hEmpty : Traced zero neighbors st expanded cur cur [] := by
          constructor
          case last => exact Or.inr ⟨rfl, rfl⟩
          case nodup => exact List.nodup_nil
          case walk | link =>
            intro y ys hCons
            cases hCons
          case chain | later =>
            intro x hx
            cases hx
        have hFuel : cur ≠ zero → cur ∈ queuedOrder st expanded ∧
            (queuedOrder st expanded).idxOf cur < st.prev.size + 1 := by
          intro _
          have hIdx := List.idxOf_lt_length_of_mem hCur
          have hLength := h.length_le
          exact ⟨hCur, by omega⟩
        have hTraced := hEmpty.reconstruct h hFuel
        constructor
        case walk =>
          cases hPath : reconstruct zero st.prev (st.prev.size + 1) cur [] with
          | nil => trivial
          | cons y ys => exact hTraced.walk y ys hPath
        case nodup => exact hTraced.nodup
        case nonzero => exact fun hMem => (hTraced.later zero hMem).2.1 rfl
        case last => exact hTraced.last
        case admitted => exact fun x hx => h.admitted x (hTraced.later x hx).1
      · exact ih (h.expand hQueue) hSearch

theorem search_startSearch {start goal : κ} {fuel : Nat} {path : List κ}
    (h : search zero neighbors expandable goal fuel (startSearch zero start) = some path) :
    FoundPath zero neighbors expandable start goal path :=
  search_found (explored_startSearch start) h

omit [DecidableEq κ] in
theorem walkFrom_of_walk {w x : κ} {xs : List κ} (h : Walk neighbors w x xs) : WalkFrom neighbors x xs := by
  cases xs with
  | nil => trivial
  | cons y ys => exact h.2.2

omit [DecidableEq κ] in
/-- A walk stands at each of its nodes entered from the node before. -/
theorem WalkFrom.walk_append {w x : κ} {before xs : List κ} (h : WalkFrom neighbors w (before ++ x :: xs)) :
    Walk neighbors (before.getLastD w) x xs := by
  induction before generalizing w with
  | nil => exact h
  | cons p before ih =>
    rw [List.getLastD_cons]
    exact ih (walkFrom_of_walk h)

/-! ## Enough fuel -/

/-- Nodes that can still be taken from the queue: the waiting ones, and the unvisited ones that could
be queued. -/
def pending (nodes : Finset κ) (st : Search κ) : Nat :=
  st.queue.length + (nodes.filter (fun x => st.prev.find x = none)).card

section Fuel

variable {nodes : Finset κ}

theorem pending_discover (hNodes : ∀ x, expandable x = true → x ∈ nodes) (cur : κ) (st : Search κ)
    (next : κ) : pending nodes (discover expandable cur st next) ≤ pending nodes st := by
  unfold discover
  split
  · rename_i hNone
    have hFind : ∀ x, (st.prev.emplace ⟨next, cur⟩).find x = none → st.prev.find x = none ∧ x ≠ next := by
      intro x hx
      rw [KeyedMap.find_emplace, Option.or_eq_none_iff] at hx
      refine ⟨hx.1, ?_⟩
      rintro rfl
      rw [if_pos (show Keyed.key (⟨x, cur⟩ : Visit κ) = x from rfl)] at hx
      cases hx.2
    have hSub : nodes.filter (fun x => (st.prev.emplace ⟨next, cur⟩).find x = none) ⊆
        nodes.filter (fun x => st.prev.find x = none) := by
      intro x hx
      rw [Finset.mem_filter] at hx ⊢
      exact ⟨hx.1, (hFind x hx.2).1⟩
    cases hExp : expandable next with
    | false =>
      have hCard := Finset.card_le_card hSub
      simp only [pending, Bool.false_eq_true, if_false]
      omega
    | true =>
      have hStrict : nodes.filter (fun x => (st.prev.emplace ⟨next, cur⟩).find x = none) ⊂
          nodes.filter (fun x => st.prev.find x = none) := by
        refine Finset.ssubset_iff_subset_ne.mpr ⟨hSub, fun hEq => ?_⟩
        have hMem : next ∈ nodes.filter (fun x => st.prev.find x = none) :=
          Finset.mem_filter.mpr ⟨hNodes next hExp, hNone⟩
        rw [← hEq, Finset.mem_filter] at hMem
        exact (hFind next hMem.2).2 rfl
      have hCard := Finset.card_lt_card hStrict
      simp only [pending, if_true, List.length_append, List.length_singleton]
      omega
  · exact Nat.le_refl _

theorem pending_expand (hNodes : ∀ x, expandable x = true → x ∈ nodes) (cur : κ) (ns : List κ)
    (st : Search κ) : pending nodes (ns.foldl (discover expandable cur) st) ≤ pending nodes st := by
  induction ns generalizing st with
  | nil => exact Nat.le_refl _
  | cons n ns ih => exact Nat.le_trans (ih _) (pending_discover hNodes cur st n)

theorem pending_pop (hNodes : ∀ x, expandable x = true → x ∈ nodes) {st : Search κ} {c : Visit κ}
    {rest : List (Visit κ)} (hQueue : st.queue = c :: rest) (ns : List κ) :
    pending nodes (ns.foldl (discover expandable c.node) { st with queue := rest }) < pending nodes st := by
  have hRest : pending nodes { st with queue := rest } + 1 = pending nodes st := by
    simp only [pending, hQueue, List.length_cons]
    omega
  have hLe := pending_expand hNodes c.node ns { st with queue := rest }
  omega

theorem queue_eq_nil {st : Search κ} (h : pending nodes st ≤ 0) : st.queue = [] := by
  rw [pending] at h
  exact List.length_eq_zero_iff.mp (by omega)

theorem pending_startSearch (start : κ) : pending nodes (startSearch zero start) ≤ nodes.card + 1 := by
  have hCard := Finset.card_filter_le nodes (fun x => (startSearch zero start).prev.find x = none)
  have hQueue : (startSearch zero start).queue.length = 1 := rfl
  rw [pending, hQueue]
  omega

theorem search_succ (hNodes : ∀ x, expandable x = true → x ∈ nodes) (goal : κ) {fuel : Nat}
    {st : Search κ} (hFuel : pending nodes st ≤ fuel) :
    search zero neighbors expandable goal (fuel + 1) st = search zero neighbors expandable goal fuel st := by
  induction fuel generalizing st with
  | zero => simp only [search, queue_eq_nil hFuel]
  | succ fuel ih =>
    cases hQueue : st.queue with
    | nil => simp only [search, hQueue]
    | cons c rest =>
      rw [search, search]
      simp only [hQueue]
      split
      · rfl
      · refine ih ?_
        have hLess := pending_pop hNodes hQueue (neighbors c.node c.pred)
        omega

/-- Fuel beyond one step for each node that can be expanded, and one for the root, changes nothing. -/
theorem search_of_le (hNodes : ∀ x, expandable x = true → x ∈ nodes) (start goal : κ) {fuel : Nat}
    (hFuel : nodes.card + 1 ≤ fuel) :
    search zero neighbors expandable goal fuel (startSearch zero start) =
      search zero neighbors expandable goal (nodes.card + 1) (startSearch zero start) := by
  induction fuel, hFuel using Nat.le_induction with
  | base => rfl
  | succ fuel hLe ih => rw [search_succ hNodes goal (Nat.le_trans (pending_startSearch start) hLe), ih]

end Fuel

end Search

end Symulator.Library
