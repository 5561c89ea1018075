import SampleGrpc.Interaction.History
import SampleGrpc.Interaction.Pool

/-!
# A client beside a pool

A client and a pool of programs, as one system. The client moves by a relation of its own, which may
look at the pool, at what its programs have returned for instance; the pool moves as it does alone.

* `Joint.Step` — one event of the client, or one action of a program.
* `Joint.invariant` — what the moves of both keep holds in every run.
* `Joint.run_exec` — a schedule of the pool is a part of a run.
-/

namespace SampleGrpc

/-- A client, and the pool beside it. -/
structure Joint (C ι Q : Type) (R : Q → Type) (α S : Type) where
  client : C
  pool : Pool ι Q R α S

namespace Joint

variable {C A ι Q : Type} {R : Q → Type} {α S E : Type}

inductive Event (A ι E : Type) where
  | client (a : A)
  | pool (i : ι) (e : E)

variable [DecidableEq ι]

inductive Step (exe : E → (q : Q) → S → R q × S) (move : Pool ι Q R α S → C → A → C → Prop) :
    Joint C ι Q R α S → Event A ι E → Joint C ι Q R α S → Prop where
  | client {c : Pool ι Q R α S} {x x' : C} {a : A} (h : move c x a x') :
      Step exe move ⟨x, c⟩ (.client a) ⟨x', c⟩
  | pool {c : Pool ι Q R α S} {x : C} (i : ι) (e : E) :
      Step exe move ⟨x, c⟩ (.pool i e) ⟨x, c.step exe i e⟩

variable {exe : E → (q : Q) → S → R q × S} {move : Pool ι Q R α S → C → A → C → Prop}
  {start j : Joint C ι Q R α S} {hist : List (Entry (Joint C ι Q R α S) (Event A ι E))}

/-- **The invariant rule.** -/
theorem invariant (Inv : C → Pool ι Q R α S → Prop) (init : Inv start.client start.pool)
    (client : ∀ c x a x', Inv x c → move c x a x' → Inv x' c)
    (pool : ∀ c x i e, Inv x c → Inv x (c.step exe i e))
    (h : Run (Step exe move) start hist j) : Inv j.client j.pool := by
  refine h.invariant (fun _ j => Inv j.client j.pool) init fun _ j e j' hinv hs => ?_
  cases hs with
  | client hmove => exact client _ _ _ _ hinv hmove
  | pool i e => exact pool _ _ i e hinv

theorem run_exec (h : Run (Step exe move) start hist j) (sched : List (ι × E)) :
    ∃ hist', Run (Step exe move) start hist' ⟨j.client, j.pool.exec exe sched⟩ := by
  induction sched generalizing j hist with
  | nil => exact ⟨hist, h⟩
  | cons x sched ih => exact ih (h.snoc (.pool x.1 x.2))

end Joint

end SampleGrpc
