import Mathlib.Logic.Function.Basic

/-!
# Programs over atomic actions

A program is a tree: it returns, or performs one atomic action and continues with the reply.
Nothing here knows what the actions are. The signature is a type `Q` of actions with a reply
type `R q` for each, and the meaning of an action is a function `exec` of the environment's
choices `E` (clock readings, random draws, faults) and the shared state `S`.

* `Prog` — the tree, a monad by grafting.
* `Prog.Uses` — every action the program can perform satisfies a predicate.
* `Prog.Runs` — the program, run alone, can take `s` to `s'` and return `a`.
-/

namespace SampleGrpc

/-- A program over the signature `(Q, R)` returning an `α`. -/
inductive Prog (Q : Type) (R : Q → Type) (α : Type) where
  | ret (a : α)
  | act (q : Q) (k : R q → Prog Q R α)

namespace Prog

variable {Q : Type} {R : Q → Type} {α β γ S E : Type}

def bind : Prog Q R α → (α → Prog Q R β) → Prog Q R β
  | .ret a, f => f a
  | .act q k, f => .act q fun r => (k r).bind f

instance : Monad (Prog Q R) where
  pure := .ret
  bind := .bind

/-- Perform one action and return its reply. -/
def perform (q : Q) : Prog Q R (R q) := .act q .ret

@[simp] theorem pure_eq (a : α) : (pure a : Prog Q R α) = .ret a := rfl

@[simp] theorem ret_bind (a : α) (f : α → Prog Q R β) : (.ret a : Prog Q R α) >>= f = f a := rfl

@[simp] theorem act_bind (q : Q) (k : R q → Prog Q R α) (f : α → Prog Q R β) :
    (.act q k : Prog Q R α) >>= f = .act q fun r => k r >>= f := rfl

@[simp] theorem perform_bind (q : Q) (f : R q → Prog Q R β) :
    (perform q : Prog Q R (R q)) >>= f = .act q f := rfl

theorem bind_assoc (p : Prog Q R α) (f : α → Prog Q R β) (g : β → Prog Q R γ) :
    (p >>= f) >>= g = p >>= fun a => f a >>= g := by
  induction p with
  | ret a => rfl
  | act q k ih =>
    simp only [act_bind]
    congr 1
    funext r
    exact ih r

/-! ## The actions a program can perform -/

/-- Every action the program can perform, whatever the replies, satisfies `P`. -/
def Uses (P : Q → Prop) : Prog Q R α → Prop
  | .ret _ => True
  | .act q k => P q ∧ ∀ r, (k r).Uses P

theorem Uses.bind {P : Q → Prop} {p : Prog Q R α} {f : α → Prog Q R β}
    (hp : p.Uses P) (hf : ∀ a, (f a).Uses P) : (p >>= f).Uses P := by
  induction p with
  | ret a => exact hf a
  | act q k ih => exact ⟨hp.1, fun r => ih r (hp.2 r)⟩

theorem Uses.mono {P P' : Q → Prop} {p : Prog Q R α} (hp : p.Uses P) (h : ∀ q, P q → P' q) :
    p.Uses P' := by
  induction p with
  | ret a => trivial
  | act q k ih => exact ⟨h q hp.1, fun r => ih r (hp.2 r)⟩

/-! ## Runs in isolation -/

section Runs

variable (exec : E → (q : Q) → S → R q × S) (ok : E → Q → S → Prop)

/-- Run alone from `s`, with environment choices that `ok` admits, the program can return `a`
and leave the state `s'`. -/
inductive Runs : Prog Q R α → S → α → S → Prop where
  | ret (a : α) (s : S) : Runs (.ret a) s a s
  | act {q : Q} {k : R q → Prog Q R α} {s s' : S} {a : α} (e : E) (he : ok e q s)
      (h : Runs (k (exec e q s).1) (exec e q s).2 a s') : Runs (.act q k) s a s'

variable {exec ok}

theorem runs_ret_iff {a b : α} {s s' : S} :
    Runs exec ok (.ret a : Prog Q R α) s b s' ↔ b = a ∧ s' = s := by
  refine ⟨?_, ?_⟩
  · intro h
    cases h
    exact ⟨rfl, rfl⟩
  · intro h
    obtain ⟨rfl, rfl⟩ := h
    exact .ret _ _

theorem runs_act_iff {q : Q} {k : R q → Prog Q R α} {s s' : S} {a : α} :
    Runs exec ok (.act q k) s a s' ↔
      ∃ e, ok e q s ∧ Runs exec ok (k (exec e q s).1) (exec e q s).2 a s' := by
  refine ⟨?_, ?_⟩
  · intro h
    cases h with
    | act e he h => exact ⟨e, he, h⟩
  · intro h
    obtain ⟨e, he, h⟩ := h
    exact .act e he h

theorem runs_bind_iff {p : Prog Q R α} {f : α → Prog Q R β} {s s'' : S} {b : β} :
    Runs exec ok (p >>= f) s b s'' ↔
      ∃ a s', Runs exec ok p s a s' ∧ Runs exec ok (f a) s' b s'' := by
  induction p generalizing s with
  | ret a =>
    refine ⟨?_, ?_⟩
    · intro h
      exact ⟨a, s, .ret a s, h⟩
    · intro h
      obtain ⟨a', s', h, hf⟩ := h
      obtain ⟨rfl, rfl⟩ := runs_ret_iff.mp h
      exact hf
  | act q k ih =>
    rw [act_bind, runs_act_iff]
    refine ⟨?_, ?_⟩
    · intro h
      obtain ⟨e, he, h⟩ := h
      obtain ⟨a, s', hk, hf⟩ := (ih _).mp h
      exact ⟨a, s', .act e he hk, hf⟩
    · intro h
      obtain ⟨a, s', h, hf⟩ := h
      obtain ⟨e, he, hk⟩ := runs_act_iff.mp h
      exact ⟨e, he, (ih _).mpr ⟨a, s', hk, hf⟩⟩

/-- A run is one under any condition that admits as much. -/
theorem Runs.mono {ok' : E → Q → S → Prop} {p : Prog Q R α} {s s' : S} {a : α}
    (h : Runs exec ok p s a s') (hok : ∀ e q s, ok e q s → ok' e q s) : Runs exec ok' p s a s' := by
  induction h with
  | ret a s => exact .ret a s
  | act e he _ ih => exact .act e (hok _ _ _ he) ih

/-- A relation that every admitted action respects relates the ends of every run. -/
theorem Runs.preserves {P : Q → Prop} (rel : S → S → Prop) (refl : ∀ s, rel s s)
    (trans : ∀ s₁ s₂ s₃, rel s₁ s₂ → rel s₂ s₃ → rel s₁ s₃)
    (step : ∀ e q s, ok e q s → P q → rel s (exec e q s).2)
    {p : Prog Q R α} {s s' : S} {a : α} (h : Runs exec ok p s a s') (hp : p.Uses P) :
    rel s s' := by
  induction h with
  | ret a s => exact refl s
  | act e he _ ih => exact trans _ _ _ (step e _ _ he hp.1) (ih (hp.2 _))

end Runs

end Prog

end SampleGrpc
