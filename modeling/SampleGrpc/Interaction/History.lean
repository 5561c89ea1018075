import Mathlib.Data.List.Basic

/-!
# Runs with their history

A run of a step relation, together with the list of its steps, each with the states around it.
Statements about runs are about that list: what holds of every step, and what an earlier step must
have been for a later one to be possible.

* `Run.invariant` — a property of history and state that every step keeps.
* `Run.split`, `Run.after` — the run up to a step, and the run after it.
* `Run.simulate` — a simulation takes runs to runs.
* `Run.length_le` — a run along which a measure decreases is no longer than the measure.
-/

namespace SampleGrpc

variable {S E : Type}

/-- A step of a run, between two states. -/
structure Entry (S E : Type) where
  before : S
  event : E
  after : S

/-- A run from `c₀`: its history, and the state it ends in. -/
inductive Run (step : S → E → S → Prop) (c₀ : S) : List (Entry S E) → S → Prop where
  | nil : Run step c₀ [] c₀
  | snoc {hist : List (Entry S E)} {c c' : S} {e : E} (h : Run step c₀ hist c) (hs : step c e c') :
      Run step c₀ (hist ++ [⟨c, e, c'⟩]) c'

variable {step : S → E → S → Prop} {c₀ c : S} {hist : List (Entry S E)}

/-- **The invariant rule.** -/
theorem Run.invariant (Inv : List (Entry S E) → S → Prop) (init : Inv [] c₀)
    (next : ∀ hist c e c', Inv hist c → step c e c' → Inv (hist ++ [⟨c, e, c'⟩]) c')
    (h : Run step c₀ hist c) : Inv hist c := by
  induction h with
  | nil => exact init
  | snoc _ hs ih => exact next _ _ _ _ ih hs

theorem Run.step_of_mem (h : Run step c₀ hist c) {x : Entry S E} (hx : x ∈ hist) :
    step x.before x.event x.after := by
  induction h with
  | nil => simp at hx
  | snoc _ hs ih =>
    rcases List.mem_append.mp hx with hx | hx
    · exact ih hx
    · rw [List.mem_singleton] at hx
      rwa [hx]

/-- A run with one step more at its beginning. -/
theorem Run.cons {c₁ : S} {e : E} (hs : step c₀ e c₁) (h : Run step c₁ hist c) :
    Run step c₀ (⟨c₀, e, c₁⟩ :: hist) c := by
  induction h with
  | nil => exact Run.nil.snoc hs
  | snoc _ hnext ih => exact ih.snoc hnext

/-- The run up to one of its steps. -/
theorem Run.split (h : Run step c₀ hist c) {pre post : List (Entry S E)} {x : Entry S E}
    (hx : hist = pre ++ x :: post) : Run step c₀ pre x.before := by
  induction h generalizing post with
  | nil => simp at hx
  | @snoc hist c c' e h hs ih =>
    rcases List.eq_nil_or_concat post with rfl | ⟨post', y, rfl⟩
    · obtain ⟨hhist, hlast⟩ := List.append_inj' hx rfl
      obtain rfl : (⟨c, e, c'⟩ : Entry S E) = x := by simpa using hlast
      rwa [← hhist]
    · rw [List.concat_eq_append, ← List.cons_append, ← List.append_assoc] at hx
      exact ih (List.append_inj' hx rfl).1

/-- The run after one of its steps. -/
theorem Run.after (h : Run step c₀ hist c) {pre post : List (Entry S E)} {x : Entry S E}
    (hx : hist = pre ++ x :: post) : Run step x.after post c := by
  induction h generalizing post with
  | nil => simp at hx
  | @snoc hist c c' e h hs ih =>
    rcases List.eq_nil_or_concat post with rfl | ⟨post', y, rfl⟩
    · obtain ⟨-, hlast⟩ := List.append_inj' hx rfl
      obtain rfl : (⟨c, e, c'⟩ : Entry S E) = x := by simpa using hlast
      exact .nil
    · rw [List.concat_eq_append] at hx ⊢
      rw [← List.cons_append, ← List.append_assoc] at hx
      obtain ⟨hhist, hlast⟩ := List.append_inj' hx rfl
      obtain rfl : (⟨c, e, c'⟩ : Entry S E) = y := by simpa using hlast
      exact (ih hhist).snoc hs

/-! ## Simulation -/

/-- The entry, seen through a function on states. -/
def Entry.map {A : Type} (f : S → A) (x : Entry S E) : Entry A E := ⟨f x.before, x.event, f x.after⟩

/-- **A simulation takes runs to runs**, with the same events. -/
theorem Run.simulate {A : Type} {step' : A → E → A → Prop} {f : S → A}
    (hstep : ∀ c e c', step c e c' → step' (f c) e (f c')) (h : Run step c₀ hist c) :
    Run step' (f c₀) (hist.map (Entry.map f)) (f c) := by
  induction h with
  | nil => exact .nil
  | snoc _ hs ih =>
    rw [List.map_append]
    exact ih.snoc (hstep _ _ _ hs)

/-- A relation that every step of a run respects relates its ends. -/
theorem Run.preserves {rel : S → S → Prop} (refl : ∀ c, rel c c)
    (trans : ∀ c₁ c₂ c₃, rel c₁ c₂ → rel c₂ c₃ → rel c₁ c₃) (h : Run step c₀ hist c)
    (hstep : ∀ x ∈ hist, rel x.before x.after) : rel c₀ c := by
  induction h with
  | nil => exact refl _
  | snoc _ _ ih =>
    refine trans _ _ _ (ih fun x hx => hstep x (List.mem_append_left _ hx)) ?_
    exact hstep _ (List.mem_append_right _ List.mem_cons_self)

/-- **A run along which a measure decreases ends within the measure.** -/
theorem Run.length_le (μ : S → ℕ) (h : Run step c₀ hist c)
    (hstep : ∀ x ∈ hist, μ x.after < μ x.before) : hist.length + μ c ≤ μ c₀ := by
  induction h with
  | nil => simp
  | @snoc hist c c' e _ _ ih =>
    have hprev := ih fun x hx => hstep x (List.mem_append_left _ hx)
    have hlast : μ c' < μ c := hstep ⟨c, e, c'⟩ (List.mem_append_right _ List.mem_cons_self)
    rw [List.length_append, List.length_singleton]
    omega

end SampleGrpc
