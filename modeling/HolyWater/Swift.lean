/-
Array subscripts, filters and truncation, as a checked language has them.

* `subscript` — an array subscript by a signed index; `none` is the trap;
* `count_filter` — how often an element is left in a filtered array;
* `truncate` — the conversion of a quotient to an integer, toward zero;
* `truncate_nonneg`, `truncate_lt` — a quotient strictly between `-1` and `n`
  truncates to an index below `n`, also when it is negative.
-/
import Mathlib.Algebra.Order.Floor.Ring
import Mathlib.Data.Rat.Floor
import Mathlib.Tactic.Linarith

namespace Swift

variable {α : Type*}

/-- The subscript `xs[i]`; `none` when the index is out of range. -/
def subscript (xs : List α) (i : Int) : Option α :=
  if 0 ≤ i then xs[i.toNat]? else none

@[simp] theorem subscript_natCast (xs : List α) (n : ℕ) :
    subscript xs (n : Int) = xs[n]? := by
  simp [subscript]

theorem subscript_eq_some_iff {xs : List α} {i : Int} {x : α} :
    subscript xs i = some x ↔ ∃ n : ℕ, i = n ∧ xs[n]? = some x := by
  constructor
  · intro h
    rw [subscript] at h
    split at h
    · exact ⟨i.toNat, by omega, h⟩
    · exact absurd h (by simp)
  · rintro ⟨n, rfl, h⟩
    rw [subscript_natCast, h]

/-- A subscript is in range exactly from `0` up to the length. -/
theorem subscript_isSome_iff {xs : List α} {i : Int} :
    (subscript xs i).isSome ↔ 0 ≤ i ∧ i < xs.length := by
  rw [subscript]
  split
  · rw [isSome_getElem?]
    omega
  · simp
    omega

/-- A filter keeps each element as often as it was there, or not at all. -/
theorem count_filter [BEq α] [LawfulBEq α] (p : α → Bool) (xs : List α) (x : α) :
    (xs.filter p).count x = if p x then xs.count x else 0 := by
  split
  · rename_i hx
    exact List.count_filter hx
  · rename_i hx
    refine List.count_eq_zero_of_not_mem fun hmem => hx ?_
    exact (List.mem_filter.mp hmem).2

/-- The integer part of `q`, toward zero. -/
def truncate (q : ℚ) : Int := q.num.tdiv q.den

theorem truncate_of_nonneg {q : ℚ} (hq : 0 ≤ q) : truncate q = ⌊q⌋ := by
  rw [truncate, Rat.floor_def', Int.tdiv_eq_ediv_of_nonneg (Rat.num_nonneg.mpr hq)]

@[simp] theorem truncate_natCast (n : ℕ) : truncate (n : ℚ) = n := by
  simp [truncate]

theorem truncate_of_neg {q : ℚ} (hq : q < 0) : truncate q = -⌊-q⌋ := by
  rw [← truncate_of_nonneg (by linarith), truncate, truncate, Rat.neg_num, Rat.neg_den,
    Int.neg_tdiv, neg_neg]

/-- Toward zero: nothing above `-1` truncates to a negative integer. -/
theorem truncate_nonneg {q : ℚ} (hq : -1 < q) : 0 ≤ truncate q := by
  by_cases h : 0 ≤ q
  · rw [truncate_of_nonneg h]
    exact Int.floor_nonneg.mpr h
  · rw [truncate_of_neg (not_le.mp h)]
    have hfloor : ⌊-q⌋ < 1 := Int.floor_lt.mpr (by push_cast; linarith)
    omega

theorem truncate_lt {q : ℚ} {n : ℕ} (hq : q < n) (hn : 0 < n) : truncate q < n := by
  by_cases h : 0 ≤ q
  · rw [truncate_of_nonneg h]
    exact Int.floor_lt.mpr (by exact_mod_cast hq)
  · rw [truncate_of_neg (not_le.mp h)]
    have hfloor : 0 ≤ ⌊-q⌋ := Int.floor_nonneg.mpr (by linarith)
    omega

end Swift
