import Mathlib.Data.List.Basic

/-! # Reading a stream item by item

A reader takes one item from the front of a stream and says how much of the stream it was. Read again and
again, it goes through a stream of encoded items and gives the items back, as long as it reads every
encoding off whatever follows it.
-/

namespace Symulator.Library

set_option autoImplicit false

universe u v

/-- What a reader has read is not empty and was there. -/
structure StreamReader (β : Type u) (α : Type v) where
  read : List β → Option (α × Nat)
  read_bounds : ∀ {data a n}, read data = some (a, n) → 0 < n ∧ n ≤ data.length

namespace StreamReader

variable {β : Type u} {α : Type v} (reader : StreamReader β α)

/-- The items read off a stream, and what is left where the reader gets stuck. -/
def readAll (data : List β) : List α × List β :=
  match _hRead : reader.read data with
  | none => ([], data)
  | some (a, n) =>
    let (items, rest) := readAll (data.drop n)
    (a :: items, rest)
termination_by data.length
decreasing_by
  have hBounds := reader.read_bounds _hRead
  rw [List.length_drop]
  omega

variable {reader}

theorem readAll_of_none {data : List β} (h : reader.read data = none) : reader.readAll data = ([], data) := by
  rw [readAll]
  split
  · rfl
  · rename_i hSome
    rw [h] at hSome
    cases hSome

theorem readAll_of_some {data : List β} {a : α} {n : Nat} (h : reader.read data = some (a, n)) :
    reader.readAll data = (a :: (reader.readAll (data.drop n)).1, (reader.readAll (data.drop n)).2) := by
  rw [readAll]
  split
  · rename_i hNone
    rw [h] at hNone
    cases hNone
  · rename_i a' n' hSome
    rw [h] at hSome
    cases hSome
    rfl

theorem read_readAll (data : List β) : reader.read (reader.readAll data).2 = none := by
  fun_induction reader.readAll data with
  | case1 data hRead => exact hRead
  | case2 data a n hRead items left hLeft ih =>
    rw [hLeft] at ih
    exact ih

/-- Encodings that are read off any stream they begin are all read off the stream they make up. -/
theorem readAll_flatMap {encode : α → List β} {items : List α}
    (h : ∀ a ∈ items, ∀ rest, reader.read (encode a ++ rest) = some (a, (encode a).length)) (rest : List β) :
    reader.readAll (items.flatMap encode ++ rest) =
      (items ++ (reader.readAll rest).1, (reader.readAll rest).2) := by
  induction items with
  | nil => rfl
  | cons a items ih =>
    have hRead := h a List.mem_cons_self (items.flatMap encode ++ rest)
    have hRest := ih fun b hb => h b (List.mem_cons_of_mem a hb)
    rw [List.flatMap_cons, List.append_assoc, readAll_of_some hRead, List.drop_left, hRest]
    rfl

/-! ## Reading in parts -/

/-- What is read off a stream is read off it whatever follows. -/
def Stable (reader : StreamReader β α) : Prop :=
  ∀ {data a n}, reader.read data = some (a, n) → ∀ rest, reader.read (data ++ rest) = some (a, n)

/-- A stream that comes in two parts is read on from where the reader got stuck. -/
theorem readAll_append (hStable : reader.Stable) (data rest : List β) :
    reader.readAll (data ++ rest) =
      ((reader.readAll data).1 ++ (reader.readAll ((reader.readAll data).2 ++ rest)).1,
        (reader.readAll ((reader.readAll data).2 ++ rest)).2) := by
  fun_induction reader.readAll data with
  | case1 data hRead => rfl
  | case2 data a n hRead items left hLeft ih =>
    have hBounds := reader.read_bounds hRead
    rw [hLeft] at ih
    rw [readAll_of_some (hStable hRead rest), List.drop_append_of_le_length hBounds.2, ih]
    rfl

theorem eq_flatMap_append {encode : α → List β}
    (h : ∀ {data a n}, reader.read data = some (a, n) → data.take n = encode a) (data : List β) :
    data = (reader.readAll data).1.flatMap encode ++ (reader.readAll data).2 := by
  fun_induction reader.readAll data with
  | case1 data hRead => rfl
  | case2 data a n hRead items left hLeft ih =>
    rw [hLeft] at ih
    rw [List.flatMap_cons, List.append_assoc, ← ih, ← h hRead, List.take_append_drop]

end StreamReader

end Symulator.Library
