import Mathlib.Data.List.Nodup
import Mathlib.Data.List.Basic

/-!
# Replacing the record with a key

A table is a list of records with distinct keys. `l.map (replaceKey key x)` is the table with the
record of `x`'s key replaced by `x`; the other records stay as they are, in place.

* `map_eq_replaceKey` — an edit of one record replaces it.
* `map_replaceKey_replaceKey` — the last of several replacements counts.
-/

namespace SampleGrpc

variable {α κ : Type} [DecidableEq κ] {key : α → κ} {l : List α} {x x' y : α}

def replaceKey (key : α → κ) (x y : α) : α := if key y = key x then x else y

theorem replaceKey_of_eq (h : key y = key x) : replaceKey key x y = x := if_pos h

theorem replaceKey_of_ne (h : key y ≠ key x) : replaceKey key x y = y := if_neg h

theorem key_replaceKey (key : α → κ) (x y : α) : key (replaceKey key x y) = key y := by
  by_cases h : key y = key x
  · rw [replaceKey_of_eq h, h]
  · rw [replaceKey_of_ne h]

/-- The new record is there, if one with its key was. -/
theorem mem_map_replaceKey (hy : y ∈ l) (h : key y = key x) : x ∈ l.map (replaceKey key x) :=
  List.mem_map.mpr ⟨y, hy, replaceKey_of_eq h⟩

/-- The records with other keys are those that were there. -/
theorem mem_map_replaceKey_iff_of_ne (h : key y ≠ key x) :
    y ∈ l.map (replaceKey key x) ↔ y ∈ l := by
  rw [List.mem_map]
  refine ⟨fun hmem => ?_, fun hmem => ⟨y, hmem, replaceKey_of_ne h⟩⟩
  obtain ⟨z, hz, rfl⟩ := hmem
  have hne : key z ≠ key x := fun hzx => h ((key_replaceKey key x z).trans hzx)
  rwa [replaceKey_of_ne hne]

theorem map_replaceKey_replaceKey (h : key x' = key x) (l : List α) :
    (l.map (replaceKey key x)).map (replaceKey key x') = l.map (replaceKey key x') := by
  rw [List.map_map]
  refine List.map_congr_left fun z _ => ?_
  show replaceKey key x' (replaceKey key x z) = replaceKey key x' z
  by_cases hz : key z = key x'
  · rw [replaceKey_of_eq hz, replaceKey_of_eq ((key_replaceKey key x z).trans hz)]
  · rw [replaceKey_of_ne fun hzx => hz (hzx.trans h.symm)]

/-- **An edit of one record replaces it.** -/
theorem map_eq_replaceKey (hnodup : (l.map key).Nodup) (hx : x ∈ l) {f : α → α}
    (hkey : key (f x) = key x) (hothers : ∀ z, key z ≠ key x → f z = z) :
    l.map f = l.map (replaceKey key (f x)) := by
  refine List.map_congr_left fun z hz => ?_
  by_cases hzx : key z = key x
  · rw [List.inj_on_of_nodup_map hnodup hz hx hzx, replaceKey_of_eq hkey.symm]
  · rw [hothers z hzx, replaceKey_of_ne fun h => hzx (h.trans hkey)]

/-- A record that is there replaces itself. -/
theorem map_replaceKey_of_mem (hnodup : (l.map key).Nodup) (hx : x ∈ l) :
    l.map (replaceKey key x) = l := by
  have hself := map_eq_replaceKey hnodup hx (f := id) rfl fun _ _ => rfl
  rw [List.map_id] at hself
  exact hself.symm

end SampleGrpc
