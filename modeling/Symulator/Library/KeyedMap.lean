import Mathlib.Data.List.Nodup
import Mathlib.Data.List.Perm.Basic

/-! # Collections whose elements carry their own key

A finite map in which every value knows the key it is stored under, kept as the list of its
values in iteration order. Distinctness of the keys is part of the type, so a lookup never has
two answers and an update never moves a value to another key.
-/

namespace Symulator.Library

set_option autoImplicit false

universe u v w

class Keyed (κ : outParam (Type u)) (α : Type v) where
  key : α → κ

structure KeyedMap (κ : Type u) (α : Type v) [Keyed κ α] where
  values : List α
  nodup : (values.map Keyed.key).Nodup

namespace KeyedMap

variable {κ : Type u} {α : Type v} {β : Type w} [Keyed κ α]

@[ext]
theorem ext {m n : KeyedMap κ α} (h : m.values = n.values) : m = n := by
  cases m
  cases n
  cases h
  rfl

def empty : KeyedMap κ α := ⟨[], List.nodup_nil⟩

def size (m : KeyedMap κ α) : Nat := m.values.length

@[simp] theorem values_empty : (empty : KeyedMap κ α).values = [] := rfl

theorem eq_of_key_eq {m : KeyedMap κ α} {v v' : α} (hv : v ∈ m.values) (hv' : v' ∈ m.values)
    (h : Keyed.key v = Keyed.key v') : v = v' :=
  List.inj_on_of_nodup_map m.nodup hv hv' h

theorem nodup_map_values {m : KeyedMap κ α} {g : α → β} (key : β → κ) (hKey : ∀ v, key (g v) = Keyed.key v) :
    (m.values.map g).Nodup := by
  have hKeys : (m.values.map g).map key = m.values.map Keyed.key := by
    rw [List.map_map]
    exact List.map_congr_left fun v _ => hKey v
  exact (hKeys ▸ m.nodup : ((m.values.map g).map key).Nodup).of_map key

variable [DecidableEq κ]

def find (m : KeyedMap κ α) (k : κ) : Option α :=
  m.values.find? (fun v => decide (Keyed.key v = k))

theorem nodup_map_modify {f : α → α} (hf : ∀ v, Keyed.key (f v) = Keyed.key v) (k : κ) {l : List α}
    (h : (l.map Keyed.key).Nodup) :
    ((l.map (fun v => if Keyed.key v = k then f v else v)).map Keyed.key).Nodup := by
  have hKeys : (Keyed.key ∘ fun v => if Keyed.key v = k then f v else v) = (Keyed.key : α → κ) := by
    funext v
    simp only [Function.comp_apply]
    split
    · exact hf v
    · rfl
  rw [List.map_map, hKeys]
  exact h

/-- Update in place of the value stored under a key; nothing happens when there is none. -/
def modify (m : KeyedMap κ α) (k : κ) (f : α → α)
    (hf : ∀ v, Keyed.key (f v) = Keyed.key v := by intro _; rfl) : KeyedMap κ α :=
  ⟨m.values.map (fun v => if Keyed.key v = k then f v else v), nodup_map_modify hf k m.nodup⟩

theorem find_eq_none_iff {m : KeyedMap κ α} {k : κ} :
    m.find k = none ↔ ∀ v ∈ m.values, Keyed.key v ≠ k := by
  simp [find, List.find?_eq_none]

theorem nodup_concat {m : KeyedMap κ α} {v : α} (h : m.find (Keyed.key v) = none) :
    ((m.values ++ [v]).map Keyed.key).Nodup := by
  rw [List.map_append, List.map_singleton, List.nodup_append]
  refine ⟨m.nodup, List.nodup_singleton _, ?_⟩
  intro k hk k' hk' heq
  obtain ⟨u, hu, rfl⟩ := List.mem_map.mp hk
  rw [List.mem_singleton.mp hk'] at heq
  exact find_eq_none_iff.mp h u hu heq

/-- Insertion that keeps an older value under the same key. -/
def emplace (m : KeyedMap κ α) (v : α) : KeyedMap κ α :=
  if h : m.find (Keyed.key v) = none then ⟨m.values ++ [v], nodup_concat h⟩ else m

def erase (m : KeyedMap κ α) (k : κ) : KeyedMap κ α :=
  ⟨m.values.filter (fun v => decide (Keyed.key v ≠ k)), (List.filter_sublist.map _).nodup m.nodup⟩

theorem find_eq_some_iff {m : KeyedMap κ α} {k : κ} {v : α} :
    m.find k = some v ↔ v ∈ m.values ∧ Keyed.key v = k := by
  constructor
  · intro h
    exact ⟨List.mem_of_find?_eq_some h, by simpa using List.find?_some h⟩
  · rintro ⟨hv, rfl⟩
    cases hFind : m.find (Keyed.key v) with
    | none => exact absurd rfl (find_eq_none_iff.mp hFind v hv)
    | some v' =>
      have hv' := List.mem_of_find?_eq_some hFind
      have hKey : Keyed.key v' = Keyed.key v := by simpa using List.find?_some hFind
      rw [eq_of_key_eq hv' hv hKey]

theorem key_of_find {m : KeyedMap κ α} {k : κ} {v : α} (h : m.find k = some v) : Keyed.key v = k :=
  (find_eq_some_iff.mp h).2

theorem find_key {m : KeyedMap κ α} {v : α} (h : v ∈ m.values) : m.find (Keyed.key v) = some v :=
  find_eq_some_iff.mpr ⟨h, rfl⟩

/-- What is asked of every key there is can be asked of the values. -/
theorem forall_isSome_find {m : KeyedMap κ α} {P : κ → Prop} :
    (∀ k, (m.find k).isSome = true → P k) ↔ ∀ v ∈ m.values, P (Keyed.key v) := by
  constructor
  · intro h v hv
    exact h _ (Option.isSome_iff_exists.mpr ⟨v, find_key hv⟩)
  · intro h k hk
    obtain ⟨v, hFind⟩ := Option.isSome_iff_exists.mp hk
    exact key_of_find hFind ▸ h v (find_eq_some_iff.mp hFind).1

@[simp] theorem find_empty (k : κ) : (empty : KeyedMap κ α).find k = none := rfl

@[simp] theorem find_modify (m : KeyedMap κ α) (k k' : κ) (f : α → α)
    (hf : ∀ v, Keyed.key (f v) = Keyed.key v) :
    (m.modify k f hf).find k' = (m.find k').map (fun v => if k' = k then f v else v) := by
  apply Option.ext
  intro v
  simp only [find_eq_some_iff, modify, List.mem_map, Option.map_eq_some_iff]
  constructor
  · rintro ⟨⟨u, hu, rfl⟩, hKey⟩
    by_cases h : Keyed.key u = k
    · rw [if_pos h, hf] at hKey
      exact ⟨u, ⟨hu, hKey⟩, by rw [if_pos h, if_pos (hKey ▸ h)]⟩
    · rw [if_neg h] at hKey
      exact ⟨u, ⟨hu, hKey⟩, by rw [if_neg h, if_neg (hKey ▸ h)]⟩
  · rintro ⟨u, ⟨hu, rfl⟩, rfl⟩
    refine ⟨⟨u, hu, rfl⟩, ?_⟩
    split
    · exact hf u
    · rfl

theorem find_modify_of_ne (m : KeyedMap κ α) {k k' : κ} (h : k' ≠ k) {f : α → α}
    (hf : ∀ v, Keyed.key (f v) = Keyed.key v) : (m.modify k f hf).find k' = m.find k' := by
  rw [find_modify]
  simp only [if_neg h]
  exact congrFun Option.map_id_fun' _

@[simp] theorem find_emplace (m : KeyedMap κ α) (v : α) (k : κ) :
    (m.emplace v).find k = (m.find k).or (if Keyed.key v = k then some v else none) := by
  unfold emplace
  split
  · simp only [find, List.find?_append, List.find?_singleton, decide_eq_true_eq]
  · rename_i h
    by_cases hk : Keyed.key v = k
    · obtain ⟨u, hu⟩ := Option.ne_none_iff_exists'.mp (hk ▸ h)
      rw [hu, Option.some_or]
    · rw [if_neg hk, Option.or_none]

theorem isSome_find_emplace (m : KeyedMap κ α) (v : α) (k : κ) :
    ((m.emplace v).find k).isSome = ((m.find k).isSome || decide (Keyed.key v = k)) := by
  rw [find_emplace, Option.isSome_or]
  by_cases hk : Keyed.key v = k <;> simp [hk]

@[simp] theorem find_erase (m : KeyedMap κ α) (k k' : κ) :
    (m.erase k).find k' = if k' = k then none else m.find k' := by
  apply Option.ext
  intro v
  by_cases h : k' = k
  · rw [if_pos h]
    simp only [find_eq_some_iff, erase, List.mem_filter, decide_eq_true_eq, reduceCtorEq, iff_false]
    rintro ⟨⟨_, hv⟩, hKey⟩
    exact hv (hKey.trans h)
  · rw [if_neg h]
    simp only [find_eq_some_iff, erase, List.mem_filter, decide_eq_true_eq]
    constructor
    · rintro ⟨⟨hv, _⟩, hKey⟩
      exact ⟨hv, hKey⟩
    · rintro ⟨hv, hKey⟩
      exact ⟨⟨hv, fun hEq => h (hKey.symm.trans hEq)⟩, hKey⟩

theorem values_emplace {m : KeyedMap κ α} {v : α} (h : m.find (Keyed.key v) = none) :
    (m.emplace v).values = m.values ++ [v] := by
  rw [emplace, dif_pos h]

theorem emplace_of_find {m : KeyedMap κ α} {v : α} (h : m.find (Keyed.key v) ≠ none) : m.emplace v = m := by
  rw [emplace, dif_neg h]

theorem find_foldl_emplace (vs : List α) (m : KeyedMap κ α) (k : κ) :
    (vs.foldl emplace m).find k = (m.find k).or (vs.find? fun v => decide (Keyed.key v = k)) := by
  induction vs generalizing m with
  | nil => simp
  | cons v vs ih =>
    rw [List.foldl_cons, ih, find_emplace, Option.or_assoc, List.find?_cons]
    congr 1
    split
    · rename_i hKey
      rw [decide_eq_true hKey, Option.some_or]
    · rename_i hKey
      rw [decide_eq_false hKey, Option.none_or]

theorem values_foldl_emplace {m : KeyedMap κ α} {vs : List α} (h : ((m.values ++ vs).map Keyed.key).Nodup) :
    (vs.foldl emplace m).values = m.values ++ vs := by
  induction vs generalizing m with
  | nil => exact (List.append_nil _).symm
  | cons v vs ih =>
    have hFresh : m.find (Keyed.key v) = none := by
      rw [find_eq_none_iff]
      intro u hu hKey
      rw [List.map_append, List.map_cons] at h
      exact (List.nodup_append.mp h).2.2 _ (List.mem_map_of_mem hu) _ List.mem_cons_self hKey
    rw [List.foldl_cons, ih, values_emplace hFresh, List.append_assoc, List.singleton_append]
    rwa [values_emplace hFresh, List.append_assoc, List.singleton_append]

theorem erase_emplace {m : KeyedMap κ α} {v : α} (h : m.find (Keyed.key v) = none) :
    (m.emplace v).erase (Keyed.key v) = m := by
  apply ext
  have hKept : m.values.filter (fun u => decide (Keyed.key u ≠ Keyed.key v)) = m.values :=
    List.filter_eq_self.mpr fun u hu => decide_eq_true (find_eq_none_iff.mp h u hu)
  simp only [erase, values_emplace h, List.filter_append, hKept]
  simp

theorem ext_find {m n : KeyedMap κ α} (hKeys : m.values.map Keyed.key = n.values.map (Keyed.key : α → κ))
    (h : ∀ k, m.find k = n.find k) : m = n := by
  have hLength : m.values.length = n.values.length := by
    simpa only [List.length_map] using congrArg List.length hKeys
  refine ext (List.ext_getElem hLength fun i hm hn => ?_)
  have hKey : (Keyed.key m.values[i] : κ) = Keyed.key n.values[i] := by
    have hAt := List.getElem_of_eq hKeys (by rwa [List.length_map] : i < (m.values.map Keyed.key).length)
    rwa [List.getElem_map, List.getElem_map] at hAt
  have hFind := h (Keyed.key m.values[i])
  rw [find_key (List.getElem_mem hm), hKey, find_key (List.getElem_mem hn)] at hFind
  exact Option.some.inj hFind

theorem forall_emplace {P : α → Prop} {m : KeyedMap κ α} {v : α} (hm : ∀ u ∈ m.values, P u) (hv : P v) :
    ∀ u ∈ (m.emplace v).values, P u := by
  cases h : m.find (Keyed.key v) with
  | none =>
    rw [values_emplace h]
    intro u hu
    rcases List.mem_append.mp hu with hu | hu
    · exact hm u hu
    · rw [List.mem_singleton.mp hu]
      exact hv
  | some u => rwa [emplace_of_find (by rw [h]; exact Option.some_ne_none u)]

theorem map_find_modify (m : KeyedMap κ α) (k k' : κ) (f : α → α)
    (hf : ∀ v, Keyed.key (f v) = Keyed.key v) (g : α → β) (hg : ∀ v, g (f v) = g v) :
    ((m.modify k f hf).find k').map g = (m.find k').map g := by
  rw [find_modify, Option.map_map]
  congr 1
  funext v
  simp only [Function.comp_apply]
  split
  · exact hg v
  · rfl

theorem map_values_modify (m : KeyedMap κ α) (k : κ) (f : α → α)
    (hf : ∀ v, Keyed.key (f v) = Keyed.key v) (g : α → β) (hg : ∀ v, g (f v) = g v) :
    (m.modify k f hf).values.map g = m.values.map g := by
  rw [modify, List.map_map]
  apply List.map_congr_left
  intro v _
  simp only [Function.comp_apply]
  split
  · exact hg v
  · rfl

/-- Two maps with the same values up to a projection that shows the key have the same entries up
to that projection. -/
theorem map_find_congr {m n : KeyedMap κ α} {g : α → β} (key : β → κ) (hKey : ∀ v, Keyed.key v = key (g v))
    (h : m.values.map g = n.values.map g) (k : κ) : (m.find k).map g = (n.find k).map g := by
  have hFind : ∀ l : List α, (l.find? (fun v => decide (Keyed.key v = k))).map g =
      (l.map g).find? (fun b => decide (key b = k)) := by
    intro l
    rw [List.find?_map]
    congr 2
    funext v
    simp only [Function.comp_apply, hKey]
  rw [find, find, hFind, hFind, h]

theorem modify_modify (m : KeyedMap κ α) (k : κ) {f g : α → α} (hf : ∀ v, Keyed.key (f v) = Keyed.key v)
    (hg : ∀ v, Keyed.key (g v) = Keyed.key v) : (m.modify k f hf).modify k g hg =
      m.modify k (fun v => g (f v)) (fun v => (hg (f v)).trans (hf v)) := by
  apply ext
  simp only [modify, List.map_map]
  apply List.map_congr_left
  intro v _
  by_cases hv : Keyed.key v = k
  · simp only [Function.comp_apply, if_pos hv, if_pos ((hf v).trans hv)]
  · simp only [Function.comp_apply, if_neg hv]

theorem modify_congr (m : KeyedMap κ α) {k : κ} {f g : α → α} (hf : ∀ v, Keyed.key (f v) = Keyed.key v)
    (hg : ∀ v, Keyed.key (g v) = Keyed.key v) (h : ∀ v, m.find k = some v → f v = g v) :
    m.modify k f hf = m.modify k g hg := by
  apply ext
  simp only [modify]
  apply List.map_congr_left
  intro v hv
  by_cases hKey : Keyed.key v = k
  · rw [if_pos hKey, if_pos hKey, h v (hKey ▸ find_key hv)]
  · rw [if_neg hKey, if_neg hKey]

theorem modify_id (m : KeyedMap κ α) (k : κ) : m.modify k id (fun _ => rfl) = m := by
  apply ext
  simp [modify]

theorem modify_comm (m : KeyedMap κ α) {k k' : κ} (h : k ≠ k') {f g : α → α}
    (hf : ∀ v, Keyed.key (f v) = Keyed.key v) (hg : ∀ v, Keyed.key (g v) = Keyed.key v) :
    (m.modify k f hf).modify k' g hg = (m.modify k' g hg).modify k f hf := by
  apply ext
  simp only [modify, List.map_map]
  apply List.map_congr_left
  intro v _
  by_cases hv : Keyed.key v = k
  · have hv' : Keyed.key v ≠ k' := fun hEq => h (hv.symm.trans hEq)
    simp only [Function.comp_apply, if_pos hv, if_neg hv', hf]
  · by_cases hv' : Keyed.key v = k'
    · simp only [Function.comp_apply, if_neg hv, if_pos hv', hg]
    · simp only [Function.comp_apply, if_neg hv, if_neg hv']

theorem erase_comm (m : KeyedMap κ α) (k k' : κ) : (m.erase k).erase k' = (m.erase k').erase k := by
  apply ext
  simp only [erase, List.filter_filter, Bool.and_comm]

/-- Repeating an update that does nothing the second time changes the entries under the listed keys only. -/
theorem find_foldl_modify {f : α → α} (hf : ∀ v, Keyed.key (f v) = Keyed.key v) (hTwice : ∀ v, f (f v) = f v)
    (keys : List κ) (m : KeyedMap κ α) (k : κ) : (keys.foldl (fun m k => m.modify k f hf) m).find k =
      (m.find k).map fun v => if k ∈ keys then f v else v := by
  induction keys generalizing m with
  | nil => simp
  | cons k' keys ih =>
    rw [List.foldl_cons, ih, find_modify, Option.map_map]
    congr 1
    funext v
    by_cases hHead : k = k'
    · simp [hHead, hTwice]
    · simp [hHead]

/-- The updates leave the map alone when each finds its entry updated already. -/
theorem foldl_modify_eq_iff {f : α → α} (hf : ∀ v, Keyed.key (f v) = Keyed.key v) (hTwice : ∀ v, f (f v) = f v)
    (keys : List κ) (m : KeyedMap κ α) : keys.foldl (fun m k => m.modify k f hf) m = m ↔
      ∀ k ∈ keys, ∀ v, m.find k = some v → f v = v := by
  have hKeys : ∀ n : KeyedMap κ α, (keys.foldl (fun m k => m.modify k f hf) n).values.map Keyed.key =
      n.values.map (Keyed.key : α → κ) := by
    induction keys with
    | nil => exact fun _ => rfl
    | cons k keys ih =>
      intro n
      rw [List.foldl_cons, ih, map_values_modify n k f hf Keyed.key hf]
  constructor
  · intro h k hk v hFind
    have hAt := congrArg (fun n => find n k) h
    rw [find_foldl_modify hf hTwice, hFind, Option.map_some, if_pos hk] at hAt
    exact Option.some.inj hAt
  · intro h
    refine ext_find (hKeys m) fun k => ?_
    rw [find_foldl_modify hf hTwice]
    cases hFind : m.find k with
    | none => rfl
    | some v =>
      rw [Option.map_some]
      split
      · rename_i hk
        rw [h k hk v hFind]
      · rfl

theorem mem_map_values_iff {m : KeyedMap κ α} {g : α → β} (key : β → κ) (hKey : ∀ v, key (g v) = Keyed.key v)
    (b : β) : b ∈ m.values.map g ↔ (m.find (key b)).map g = some b := by
  simp only [List.mem_map, Option.map_eq_some_iff, find_eq_some_iff]
  constructor
  · rintro ⟨v, hv, rfl⟩
    exact ⟨v, ⟨hv, (hKey v).symm⟩, rfl⟩
  · rintro ⟨v, ⟨hv, -⟩, hb⟩
    exact ⟨v, hv, hb⟩

theorem key_of_map_find {m : KeyedMap κ α} {g : α → β} {key : β → κ} (hKey : ∀ v, key (g v) = Keyed.key v)
    {k : κ} {b : β} (h : (m.find k).map g = some b) : key b = k := by
  obtain ⟨v, hFind, rfl⟩ := Option.map_eq_some_iff.mp h
  exact (hKey v).trans (key_of_find hFind)

/-- Two maps list the same values up to order, each seen through a projection that shows the key, when they
have the same entries up to the projections. -/
theorem perm_map_values_iff {m n : KeyedMap κ α} {g g' : α → β} (key : β → κ) (hKey : ∀ v, key (g v) = Keyed.key v)
    (hKey' : ∀ v, key (g' v) = Keyed.key v) :
    (m.values.map g).Perm (n.values.map g') ↔ ∀ k, (m.find k).map g = (n.find k).map g' := by
  rw [List.perm_ext_iff_of_nodup (nodup_map_values key hKey) (nodup_map_values key hKey')]
  constructor
  · intro h k
    apply Option.ext
    intro b
    constructor
    · intro hb
      obtain rfl := key_of_map_find hKey hb
      exact (mem_map_values_iff key hKey' b).mp ((h b).mp ((mem_map_values_iff key hKey b).mpr hb))
    · intro hb
      obtain rfl := key_of_map_find hKey' hb
      exact (mem_map_values_iff key hKey b).mp ((h b).mpr ((mem_map_values_iff key hKey' b).mpr hb))
  · intro h b
    rw [mem_map_values_iff key hKey, mem_map_values_iff key hKey', h]

/-- Entries that agree in one projection agree in another that tells the same apart. -/
theorem map_find_congr_iff {γ : Type w} {m n : KeyedMap κ α} {g g' : α → β} {f f' : α → γ}
    (h : ∀ v v', Keyed.key v = Keyed.key v' → (g v = g' v' ↔ f v = f' v')) :
    (∀ k, (m.find k).map g = (n.find k).map g') ↔ ∀ k, (m.find k).map f = (n.find k).map f' := by
  refine forall_congr' fun k => ?_
  cases hm : m.find k with
  | none => cases n.find k <;> simp
  | some v =>
    cases hn : n.find k with
    | none => simp
    | some v' =>
      rw [Option.map_some, Option.map_some, Option.map_some, Option.map_some, Option.some.injEq, Option.some.injEq]
      exact h v v' ((key_of_find hm).trans (key_of_find hn).symm)

/-- Two maps list the same values up to order when their entries agree in what the projections show besides
the key. -/
theorem perm_values_iff {γ : Type w} {m n : KeyedMap κ α} {g g' : α → β} (key : β → κ) (f f' : α → γ)
    (hKey : ∀ v, key (g v) = Keyed.key v) (hKey' : ∀ v, key (g' v) = Keyed.key v)
    (h : ∀ v v', Keyed.key v = Keyed.key v' → (g v = g' v' ↔ f v = f' v')) :
    (m.values.map g).Perm (n.values.map g') ↔ ∀ k, (m.find k).map f = (n.find k).map f' :=
  (perm_map_values_iff key hKey hKey').trans (map_find_congr_iff h)

/-- Where the entries agree in one projection, they agree in another when what the first leaves out agrees. -/
theorem map_find_eq_iff_rest {γ δ : Type w} {m n : KeyedMap κ α} {g g' : α → β} (f : α → γ) (rest : α → δ)
    (hg : ∀ k, (m.find k).map g = (n.find k).map g')
    (h : ∀ v v', Keyed.key v = (Keyed.key v' : κ) → g v = g' v' → (f v = f v' ↔ rest v = rest v')) :
    (∀ k, (m.find k).map f = (n.find k).map f) ↔
      ∀ k v v', m.find k = some v → n.find k = some v' → rest v = rest v' := by
  refine forall_congr' fun k => ?_
  have hAt := hg k
  cases hm : m.find k with
  | none =>
    rw [hm, Option.map_none, eq_comm, Option.map_eq_none_iff] at hAt
    simp [hAt]
  | some v =>
    cases hn : n.find k with
    | none =>
      rw [hm, hn] at hAt
      cases hAt
    | some v' =>
      have hKey : Keyed.key v = (Keyed.key v' : κ) := (key_of_find hm).trans (key_of_find hn).symm
      rw [hm, hn, Option.map_some, Option.map_some, Option.some.injEq] at hAt
      simp [h v v' hKey hAt]

end KeyedMap

end Symulator.Library
