import Mathlib.Data.List.Induction
import Mathlib.Data.List.Pairwise
import Mathlib.Data.List.Range

/-! # A countdown that is started once

A condition is sampled again and again, and every sample has a number. The first clear sample starts a
countdown, and the first clear sample at or after its end finishes it; a sample in between that is not clear
does not stop it. The countdown has waited out a clear interval only if no such sample occurred.
-/

namespace Symulator.Library

set_option autoImplicit false

/-- One sample of a countdown of length `d`; the result is `none` when it finishes. -/
def countdown (d : Nat) (timer : Option Nat) (sample : Nat × Bool) : Option (Option Nat) :=
  match timer with
  | none => some (if sample.2 then some (sample.1 + d) else none)
  | some deadline => if sample.2 ∧ deadline ≤ sample.1 then none else some (some deadline)

/-- Once clear, always clear. -/
def StaysClear (samples : List (Nat × Bool)) : Prop :=
  samples.Pairwise fun p q => p.2 = true → q.2 = true

/-- Samples taken at every number from `start` on. -/
def Numbered (start : Nat) (samples : List (Nat × Bool)) : Prop :=
  samples.map Prod.fst = List.range' start samples.length

def firstClear (samples : List (Nat × Bool)) : Option Nat := (samples.find? Prod.snd).map Prod.fst

section Countdown

variable {d start t : Nat} {samples : List (Nat × Bool)}

theorem numbered_concat {sample : Nat × Bool} : Numbered start (samples ++ [sample]) ↔
    Numbered start samples ∧ sample.1 = start + samples.length := by
  simp only [Numbered, List.map_append, List.map_singleton, List.length_append, List.length_singleton]
  rw [List.range'_concat, Nat.one_mul]
  constructor
  · intro h
    obtain ⟨hInit, hLast⟩ := List.append_inj' h rfl
    exact ⟨hInit, List.cons.inj hLast |>.1⟩
  · rintro ⟨hInit, hLast⟩
    rw [hInit, hLast]

theorem Numbered.pairwise_lt (h : Numbered start samples) : samples.Pairwise (fun p q => p.1 < q.1) := by
  have hRange : (samples.map Prod.fst).Pairwise (· < ·) := by
    rw [show samples.map Prod.fst = _ from h]
    exact List.pairwise_lt_range'
  exact List.pairwise_map.mp hRange

theorem Numbered.exists_mem (h : Numbered start samples) {n : Nat} (hStart : start ≤ n)
    (hEnd : n < start + samples.length) : ∃ b, (n, b) ∈ samples := by
  have hMem : n ∈ samples.map Prod.fst := by
    rw [show samples.map Prod.fst = _ from h, List.mem_range'_1]
    exact ⟨hStart, hEnd⟩
  obtain ⟨⟨m, b⟩, hSample, rfl⟩ := List.mem_map.mp hMem
  exact ⟨b, hSample⟩

theorem Numbered.le (h : Numbered start samples) {p : Nat × Bool} (hp : p ∈ samples) : start ≤ p.1 := by
  have hMem : p.1 ∈ samples.map Prod.fst := List.mem_map_of_mem hp
  rw [show samples.map Prod.fst = _ from h, List.mem_range'_1] at hMem
  exact hMem.1

theorem firstClear_concat (sample : Nat × Bool) : firstClear (samples ++ [sample]) =
    (firstClear samples).or (if sample.2 then some sample.1 else none) := by
  rw [firstClear, firstClear, List.find?_append, List.find?_singleton, Option.map_or]
  split <;> rfl

theorem exists_of_firstClear {k : Nat} (h : firstClear samples = some k) :
    ∃ before after, samples = before ++ (k, true) :: after ∧ ∀ p ∈ before, p.2 = false := by
  obtain ⟨⟨n, b⟩, hFind, rfl⟩ := Option.map_eq_some_iff.mp h
  obtain ⟨rfl, before, after, rfl, hBefore⟩ := List.find?_eq_some_iff_append.mp hFind
  exact ⟨before, after, rfl, fun p hp => by simpa using hBefore p hp⟩

/-- What a countdown that is not finished shows: it runs from the first clear sample on, and no clear sample
has come at or after its end. -/
theorem countdown_waiting {timer : Option Nat} (hNumbered : Numbered start samples)
    (h : samples.foldlM (countdown d) none = some timer) : timer = (firstClear samples).map (· + d) ∧
      ∀ k, firstClear samples = some k → ∀ p ∈ samples, p.2 = true → k < p.1 → p.1 < k + d := by
  induction samples using List.reverseRecOn generalizing timer with
  | nil =>
    cases h
    exact ⟨rfl, fun k hk => nomatch hk⟩
  | append_singleton samples sample ih =>
    rw [List.foldlM_append, Option.bind_eq_bind, Option.bind_eq_some_iff] at h
    obtain ⟨before, hBefore, hLast⟩ := h
    have hLast : countdown d before sample = some timer := by simpa using hLast
    obtain ⟨hTimer, hWaiting⟩ := ih (numbered_concat.mp hNumbered).1 hBefore
    rw [firstClear_concat]
    cases hFirst : firstClear samples with
    | none =>
      rw [hFirst] at hTimer
      subst hTimer
      have hNoClear : ∀ p ∈ samples, p.2 = false := by
        intro p hp
        have hNone := List.find?_eq_none.mp (Option.map_eq_none_iff.mp hFirst) p hp
        simpa using hNone
      cases hClear : sample.2 with
      | false =>
        simp only [countdown, hClear] at hLast
        cases hLast
        exact ⟨rfl, fun k hk => nomatch hk⟩
      | true =>
        simp only [countdown, hClear] at hLast
        cases hLast
        refine ⟨rfl, fun k hk p hp hp' hLater => ?_⟩
        cases hk
        rcases List.mem_append.mp hp with hp | hp
        · rw [hNoClear p hp] at hp'
          cases hp'
        · rw [List.mem_singleton.mp hp] at hLater
          omega
    | some k =>
      rw [hFirst, Option.map_some] at hTimer
      subst hTimer
      simp only [countdown] at hLast
      split at hLast
      · cases hLast
      · rename_i hNotDue
        cases hLast
        refine ⟨rfl, fun k' hk' p hp hp' hLater => ?_⟩
        cases hk'
        rcases List.mem_append.mp hp with hp | hp
        · exact hWaiting k hFirst p hp hp' hLater
        · rw [List.mem_singleton.mp hp] at hp' ⊢
          simp only [hp', true_and, Nat.not_le] at hNotDue
          exact hNotDue

/-- A countdown that finishes was started by the first clear sample, and long enough before. -/
theorem firstClear_of_done (h : countdown d ((firstClear samples).map (· + d)) (t, true) = none) :
    ∃ k, firstClear samples = some k ∧ k + d ≤ t := by
  cases hFirst : firstClear samples with
  | none =>
    rw [hFirst] at h
    cases h
  | some k =>
    rw [hFirst, Option.map_some] at h
    simp only [countdown, true_and] at h
    split at h
    · rename_i hDue
      exact ⟨k, rfl, hDue⟩
    · cases h

/-- Samples that are not clear ask nothing of those after them. -/
theorem staysClear_append_of_notClear {before rest : List (Nat × Bool)} (h : ∀ p ∈ before, p.2 = false) :
    StaysClear (before ++ rest) ↔ StaysClear rest := by
  rw [StaysClear, StaysClear, List.pairwise_append]
  refine ⟨fun hAll => hAll.2.1, fun hRest => ⟨?_, hRest, ?_⟩⟩
  · refine List.pairwise_of_forall_mem_list fun p hp q _ hClear => ?_
    rw [h p hp] at hClear
    cases hClear
  · intro p hp q _ hClear
    rw [h p hp] at hClear
    cases hClear

/-- Where a countdown finishes, it has waited out an interval of its length in which every sample was clear
exactly when the samples, once clear, stayed so. -/
theorem clear_interval_iff {timer : Option Nat} (hd : 0 < d) (hNumbered : Numbered start (samples ++ [(t, true)]))
    (hRun : samples.foldlM (countdown d) none = some timer) (hDone : countdown d timer (t, true) = none) :
    (∃ t₀, start ≤ t₀ ∧ t₀ + d ≤ t ∧ ∀ p ∈ samples ++ [(t, true)], t₀ ≤ p.1 → p.2 = true) ↔
      StaysClear (samples ++ [(t, true)]) := by
  obtain ⟨hBefore, hLast⟩ := numbered_concat.mp hNumbered
  dsimp only at hLast
  obtain ⟨hTimer, hWaiting⟩ := countdown_waiting hBefore hRun
  obtain ⟨k, hFirst, hDue⟩ := firstClear_of_done (hTimer ▸ hDone)
  obtain ⟨before, after, rfl, hNotClear⟩ := exists_of_firstClear hFirst
  have hEarlier : ∀ p ∈ before, p.1 < k := by
    intro p hp
    exact (List.pairwise_append.mp hBefore.pairwise_lt).2.2 p hp (k, true) List.mem_cons_self
  have hLater : ∀ p ∈ after, k < p.1 := by
    have hTail := (List.pairwise_append.mp hBefore.pairwise_lt).2.1
    exact (List.pairwise_cons.mp hTail).1
  rw [List.append_assoc, staysClear_append_of_notClear hNotClear]
  constructor
  · rintro ⟨t₀, hStart, hLong, hClear⟩
    have hAfter : ∀ q ∈ after, q.2 = true := by
      intro q hq
      by_contra hNo
      have hMem : q ∈ before ++ (k, true) :: after := by simp [hq]
      have hq₀ : q.1 < t₀ := by
        by_contra hLe
        refine hNo (hClear q ?_ (Nat.not_lt.mp hLe))
        simp [hq]
      have hkq := hLater q hq
      -- The sample just before the last one is clear too, and the countdown would have finished there.
      have hStartK := hBefore.le hMem
      obtain ⟨b, hPrev⟩ := hBefore.exists_mem (show start ≤ t - 1 by omega) (show t - 1 < _ by omega)
      have hb := hClear (t - 1, b) (by rw [← List.append_assoc]; exact List.mem_append_left _ hPrev)
        (show t₀ ≤ t - 1 by omega)
      have hWait := hWaiting k hFirst (t - 1, b) hPrev hb (show k < t - 1 by omega)
      dsimp only at hWait
      omega
    refine List.pairwise_of_forall_mem_list fun _ _ q hq _ => ?_
    simp only [List.cons_append, List.mem_cons, List.mem_append, List.not_mem_nil, or_false] at hq
    rcases hq with rfl | hq | rfl
    · rfl
    · exact hAfter q hq
    · rfl
  · intro hStays
    refine ⟨k, hBefore.le (show (k, true) ∈ _ by simp), hDue, fun p hp hk => ?_⟩
    have hTail := (List.pairwise_cons.mp hStays).1
    rcases List.mem_append.mp hp with hp | hp
    · exact absurd (hEarlier p hp) (Nat.not_lt.mpr hk)
    · rcases List.mem_cons.mp hp with rfl | hp
      · rfl
      · exact hTail p hp rfl

end Countdown

end Symulator.Library
