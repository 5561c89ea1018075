import Mathlib.Algebra.BigOperators.Group.Finset.Basic
import Mathlib.Data.Fintype.Defs
import SampleGrpc.Interaction.History

/-!
# Ledgers

An account held partly in common and partly in one share for each party. Where a step moves
amounts between the common part and one share, or adds what its event is worth, the whole account
is what the events of the run were worth, in whatever order the parties moved.

* `Ledger.Balanced` — the step of one party, as the ledger sees it.
* `Ledger.held_eq_earned` — the whole account, after a run.
-/

namespace SampleGrpc

/-- An account in amounts `M`: the common part, the share of each party `ι`, and what an event
adds. -/
structure Ledger (ι S E M : Type) where
  common : S → M
  share : S → ι → M
  worth : E → M

namespace Ledger

variable {ι S E M : Type} [AddCommMonoid M] (L : Ledger ι S E M)

/-- What the events of a history were worth. -/
def earned (hist : List (Entry S E)) : M := (hist.map fun x => L.worth x.event).sum

/-- A step in which party `i` moves: the shares of the others stay, and what leaves its own share
enters the common part. -/
structure Balanced (i : ι) (c : S) (e : E) (c' : S) : Prop where
  others : ∀ j, j ≠ i → L.share c' j = L.share c j
  own : L.common c' + L.share c' i = L.common c + L.share c i + L.worth e

variable [Fintype ι]

/-- The common part and all shares together. -/
def held (c : S) : M := L.common c + ∑ i, L.share c i

variable {L} {step : S → E → S → Prop} {c₀ c c' : S} {e : E} {hist : List (Entry S E)}

theorem Balanced.held {i : ι} (h : L.Balanced i c e c') : L.held c' = L.held c + L.worth e := by
  classical
  have hothers : ∑ j ∈ Finset.univ.erase i, L.share c' j =
      ∑ j ∈ Finset.univ.erase i, L.share c j :=
    Finset.sum_congr rfl fun j hj => h.others j (Finset.ne_of_mem_erase hj)
  unfold Ledger.held
  rw [← Finset.add_sum_erase _ _ (Finset.mem_univ i), ← add_assoc, h.own, hothers,
    ← Finset.add_sum_erase _ (L.share c) (Finset.mem_univ i)]
  ac_rfl

/-- A step that no share and no common part notices. -/
theorem held_of_eq (hc : L.common c' = L.common c) (hs : L.share c' = L.share c)
    (hw : L.worth e = 0) : L.held c' = L.held c + L.worth e := by
  rw [held, held, hc, hs, hw, add_zero]

/-- **The account of a run.** -/
theorem held_eq_earned (h₀ : L.held c₀ = 0)
    (next : ∀ hist c e c', Run step c₀ hist c → step c e c' → L.held c' = L.held c + L.worth e)
    (h : Run step c₀ hist c) : L.held c = L.earned hist := by
  induction h with
  | nil => simpa [earned] using h₀
  | @snoc hist c c' e h hs ih =>
    rw [next hist c e c' h hs, ih]
    simp [earned]

end Ledger

end SampleGrpc
