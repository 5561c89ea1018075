import Mathlib.Data.List.Sort

/-!
# Quantiles of a finite sample

The entry of a sorted sample at index `⌊n·num/den⌋` is a `num/den`-quantile of the sample, for
every sample size and every fraction below one, and such entries grow with the fraction.

* `IsQuantile` — at most `num/den` of the sample is smaller, at most the rest is larger.
* `isQuantile_getElem` — the entry at the index.
-/

namespace SampleGrpc

variable {α : Type} [LinearOrder α]

/-- `x` is a `num/den`-quantile of the sample `xs`. -/
structure IsQuantile (num den : ℕ) (xs : List α) (x : α) : Prop where
  mem : x ∈ xs
  below : den * xs.countP (· < x) ≤ num * xs.length
  above : den * xs.countP (x < ·) ≤ (den - num) * xs.length

instance (num den : ℕ) (xs : List α) (x : α) : Decidable (IsQuantile num den xs x) :=
  decidable_of_iff (x ∈ xs ∧ den * xs.countP (· < x) ≤ num * xs.length ∧
      den * xs.countP (x < ·) ≤ (den - num) * xs.length)
    ⟨fun h => ⟨h.1, h.2.1, h.2.2⟩, fun h => ⟨h.mem, h.below, h.above⟩⟩

variable {num den : ℕ} {xs ys : List α} {x : α}

theorem IsQuantile.of_perm (h : xs.Perm ys) (hx : IsQuantile num den xs x) :
    IsQuantile num den ys x where
  mem := h.mem_iff.mp hx.mem
  below := by simpa only [← h.countP_eq, ← h.length_eq] using hx.below
  above := by simpa only [← h.countP_eq, ← h.length_eq] using hx.above

theorem getElem_le_of_le (hs : xs.Pairwise (· ≤ ·)) {i j : ℕ} (hij : i ≤ j) (hj : j < xs.length) :
    xs[i] ≤ xs[j] := by
  rcases hij.eq_or_lt with rfl | hlt
  · exact le_rfl
  · exact List.pairwise_iff_getElem.mp hs i j _ hj hlt

/-- Only the entries before index `k` can be smaller than the entry there. -/
theorem countP_lt_getElem (hs : xs.Pairwise (· ≤ ·)) {k : ℕ} (hk : k < xs.length) :
    xs.countP (· < xs[k]) ≤ k := by
  have hdrop : (xs.drop k).countP (· < xs[k]) = 0 := by
    rw [List.countP_eq_zero]
    intro y hy
    obtain ⟨i, hi, rfl⟩ := List.getElem_of_mem hy
    rw [List.getElem_drop]
    simpa using getElem_le_of_le hs (Nat.le_add_right k i) (by simp at hi; omega)
  calc xs.countP (· < xs[k])
      = (xs.take k ++ xs.drop k).countP (· < xs[k]) := by rw [List.take_append_drop]
    _ = (xs.take k).countP (· < xs[k]) := by rw [List.countP_append, hdrop, Nat.add_zero]
    _ ≤ (xs.take k).length := List.countP_le_length
    _ ≤ k := by simp

/-- Only the entries after index `k` can be larger than the entry there. -/
theorem countP_getElem_lt (hs : xs.Pairwise (· ≤ ·)) {k : ℕ} (hk : k < xs.length) :
    xs.countP (xs[k] < ·) ≤ xs.length - (k + 1) := by
  have htake : (xs.take (k + 1)).countP (xs[k] < ·) = 0 := by
    rw [List.countP_eq_zero]
    intro y hy
    obtain ⟨i, hi, rfl⟩ := List.getElem_of_mem hy
    rw [List.getElem_take]
    simpa using getElem_le_of_le hs (by simp at hi; omega) hk
  calc xs.countP (xs[k] < ·)
      = (xs.take (k + 1) ++ xs.drop (k + 1)).countP (xs[k] < ·) := by rw [List.take_append_drop]
    _ = (xs.drop (k + 1)).countP (xs[k] < ·) := by rw [List.countP_append, htake, Nat.zero_add]
    _ ≤ (xs.drop (k + 1)).length := List.countP_le_length
    _ = xs.length - (k + 1) := by simp

/-- The index is in range. -/
theorem quantile_index_lt (hnum : num < den) {n : ℕ} (hn : 0 < n) : n * num / den < n := by
  rw [Nat.div_lt_iff_lt_mul (Nat.zero_lt_of_lt hnum)]
  exact Nat.mul_lt_mul_of_pos_left hnum hn

/-- **The entry at `⌊n·num/den⌋` is a quantile.** -/
theorem isQuantile_getElem (hs : xs.Pairwise (· ≤ ·)) (hnum : num < den)
    (hk : xs.length * num / den < xs.length) :
    IsQuantile num den xs xs[xs.length * num / den] := by
  have hden : 0 < den := Nat.zero_lt_of_lt hnum
  have hfloor : den * (xs.length * num / den) ≤ xs.length * num := Nat.mul_div_le _ _
  have hceil : xs.length * num < den * (xs.length * num / den + 1) :=
    Nat.lt_mul_div_succ _ hden
  refine ⟨List.getElem_mem _, ?_, ?_⟩
  · calc den * xs.countP (· < xs[xs.length * num / den])
        ≤ den * (xs.length * num / den) := Nat.mul_le_mul_left _ (countP_lt_getElem hs hk)
      _ ≤ num * xs.length := by rwa [Nat.mul_comm num]
  · calc den * xs.countP (xs[xs.length * num / den] < ·)
        ≤ den * (xs.length - (xs.length * num / den + 1)) :=
          Nat.mul_le_mul_left _ (countP_getElem_lt hs hk)
      _ ≤ (den - num) * xs.length := by
          rw [Nat.mul_sub, Nat.sub_mul, Nat.mul_comm num]
          omega

/-- A larger fraction has a larger index. -/
theorem quantile_index_mono {num' : ℕ} (h : num ≤ num') (n : ℕ) :
    n * num / den ≤ n * num' / den :=
  Nat.div_le_div_right (Nat.mul_le_mul_left n h)

end SampleGrpc
