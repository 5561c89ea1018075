import Mathlib.Data.List.Forall2
import Mathlib.Data.Nat.Notation
import SampleGrpc.Interaction.Pool

/-!
# Two runs side by side

A program run alone on a stream of environment choices is a function of the stream and the state
(`Prog.play`). Two programs are alike when they perform like actions, one by one, and like replies
keep them so (`Alike`); what is alike is a parameter (`Likeness`).

* `runs_play`, `Runs.exists_play` — the runs of a program are those on some stream.
* `Alike.bind` — alike programs in sequence.
* `Alike.play` — alike programs, on like streams from like states, return like results and leave
  like states.
* `PoolsAlike.exec` — so do alike pools, on like schedules.
-/

namespace SampleGrpc

namespace Prog

variable {Q : Type} {R : Q → Type} {α β α' β' S E : Type}

/-! ## Runs on a stream -/

section Play

variable (exec : E → (q : Q) → S → R q × S)

/-- What the program returns, the state it leaves, and the choices it has not used. -/
def play : Prog Q R α → (ℕ → E) → S → α × S × (ℕ → E)
  | .ret a, es, s => (a, s, es)
  | .act q k, es, s =>
    play (k (exec (es 0) q s).1) (fun i => es (i + 1)) (exec (es 0) q s).2

@[simp] theorem play_ret (a : α) (es : ℕ → E) (s : S) :
    play exec (.ret a : Prog Q R α) es s = (a, s, es) := rfl

@[simp] theorem play_act (q : Q) (k : R q → Prog Q R α) (es : ℕ → E) (s : S) :
    play exec (.act q k) es s =
      play exec (k (exec (es 0) q s).1) (fun i => es (i + 1)) (exec (es 0) q s).2 := rfl

theorem play_bind (p : Prog Q R α) (f : α → Prog Q R β) (es : ℕ → E) (s : S) :
    play exec (p >>= f) es s =
      play exec (f (play exec p es s).1) (play exec p es s).2.2 (play exec p es s).2.1 := by
  induction p generalizing es s with
  | ret a => rfl
  | act q k ih => exact ih _ _ _

variable {exec} {ok : E → Q → S → Prop}

/-- What holds of all choices holds of those still to come. -/
theorem play_rest {P : E → Prop} {es : ℕ → E} (hes : ∀ i, P (es i)) (p : Prog Q R α) (s : S) :
    ∀ i, P ((play exec p es s).2.2 i) := by
  induction p generalizing es s with
  | ret a => exact hes
  | act q k ih => exact ih _ (fun i => hes (i + 1)) _

theorem runs_play {es : ℕ → E} (hok : ∀ i q s, ok (es i) q s) (p : Prog Q R α) (s : S) :
    Runs exec ok p s (play exec p es s).1 (play exec p es s).2.1 := by
  induction p generalizing es s with
  | ret a => exact .ret a s
  | act q k ih =>
    apply Runs.act (es 0) (hok 0 q s)
    exact ih _ (fun i => hok (i + 1)) _

/-- Choices that `P` says of every admitted choice make the run. -/
theorem Runs.exists_play {P : E → Prop} (hP : ∃ e, P e) (hok : ∀ e q s, ok e q s → P e)
    {p : Prog Q R α} {s s' : S} {a : α} (h : Runs exec ok p s a s') :
    ∃ es rest, (∀ i, P (es i)) ∧ play exec p es s = (a, s', rest) := by
  induction h with
  | ret a s =>
    obtain ⟨e, he⟩ := hP
    exact ⟨fun _ => e, _, fun _ => he, rfl⟩
  | act e he _ ih =>
    obtain ⟨es, rest, hes, hplay⟩ := ih
    refine ⟨fun i => if i = 0 then e else es (i - 1), rest, fun i => ?_, by simpa using hplay⟩
    show P (if i = 0 then e else es (i - 1))
    split
    · exact hok e _ _ he
    · exact hes (i - 1)

/-- Every action of the run on the stream passes the check. -/
def playAll (exec : E → (q : Q) → S → R q × S) (check : E → Q → S → Bool) :
    Prog Q R α → (ℕ → E) → S → Bool
  | .ret _, _, _ => true
  | .act q k, es, s => check (es 0) q s &&
    playAll exec check (k (exec (es 0) q s).1) (fun i => es (i + 1)) (exec (es 0) q s).2

/-- A run on a stream is a run, if the choices are admitted where they are used. -/
theorem runs_of_playAll {check : E → Q → S → Bool} (hok : ∀ e q s, check e q s = true → ok e q s)
    {p : Prog Q R α} {es : ℕ → E} {s : S} (h : playAll exec check p es s = true) :
    Runs exec ok p s (play exec p es s).1 (play exec p es s).2.1 := by
  induction p generalizing es s with
  | ret a => exact .ret a s
  | act q k ih =>
    obtain ⟨hcheck, hrest⟩ := Bool.and_eq_true_iff.mp h
    exact .act (es 0) (hok _ _ _ hcheck) (ih _ hrest)

end Play

end Prog

open Prog

/-! ## Alike programs -/

variable {Q : Type} {R : Q → Type} {α β α' β' S E : Type}

/-- Which actions, and which replies to them, are alike. -/
structure Likeness (Q : Type) (R : Q → Type) where
  act : Q → Q → Prop
  reply : ∀ q q', R q → R q' → Prop

/-- The programs perform like actions, like replies keep them alike, and they return values related
by `post`. -/
inductive Alike (L : Likeness Q R) (post : α → β → Prop) : Prog Q R α → Prog Q R β → Prop where
  | ret {a : α} {b : β} (h : post a b) : Alike L post (.ret a) (.ret b)
  | act {q q' : Q} {k : R q → Prog Q R α} {k' : R q' → Prog Q R β} (hq : L.act q q')
      (hk : ∀ r r', L.reply q q' r r' → Alike L post (k r) (k' r')) :
      Alike L post (.act q k) (.act q' k')

/-- The meaning of actions respects likeness: in like environments and states, like actions reply
alike and leave like states. -/
def Likeness.Respects (L : Likeness Q R) (exec : E → (q : Q) → S → R q × S)
    (env : E → E → Prop) (state : S → S → Prop) : Prop :=
  ∀ e e' q q' s s', env e e' → L.act q q' → state s s' →
    L.reply q q' (exec e q s).1 (exec e' q' s').1 ∧ state (exec e q s).2 (exec e' q' s').2

variable {L : Likeness Q R} {post : α → β → Prop} {post' : α' → β' → Prop}

theorem Alike.bind {p : Prog Q R α} {p' : Prog Q R β} {f : α → Prog Q R α'}
    {f' : β → Prog Q R β'} (hp : Alike L post p p')
    (hf : ∀ a b, post a b → Alike L post' (f a) (f' b)) : Alike L post' (p >>= f) (p' >>= f') := by
  induction hp with
  | ret h => exact hf _ _ h
  | act hq _ ih => exact .act hq ih

theorem Alike.mono {post' : α → β → Prop} {p : Prog Q R α} {p' : Prog Q R β}
    (h : Alike L post p p') (hpost : ∀ a b, post a b → post' a b) : Alike L post' p p' := by
  induction h with
  | ret h => exact .ret (hpost _ _ h)
  | act hq _ ih => exact .act hq ih

/-- The ends of two runs: like results, like states, and like choices still to come. -/
def Matched (post : α → β → Prop) (env : E → E → Prop) (state : S → S → Prop)
    (x : α × S × (ℕ → E)) (y : β × S × (ℕ → E)) : Prop :=
  post x.1 y.1 ∧ state x.2.1 y.2.1 ∧ ∀ i, env (x.2.2 i) (y.2.2 i)

/-- **Alike programs run alike.** -/
theorem Alike.play {exec : E → (q : Q) → S → R q × S} {env : E → E → Prop} {state : S → S → Prop}
    (hL : L.Respects exec env state) {p : Prog Q R α} {p' : Prog Q R β} (h : Alike L post p p')
    {es es' : ℕ → E} (hes : ∀ i, env (es i) (es' i)) {s s' : S} (hs : state s s') :
    Matched post env state (play exec p es s) (play exec p' es' s') := by
  induction h generalizing es es' s s' with
  | ret h => exact ⟨h, hs, hes⟩
  | act hq _ ih =>
    obtain ⟨hreply, hstate⟩ := hL _ _ _ _ _ _ (hes 0) hq hs
    exact ih _ _ hreply (fun i => hes (i + 1)) hstate

/-! ## Alike pools -/

variable {ι : Type} {posts : ι → α → β → Prop} {state : S → S → Prop} {env : E → E → Prop}
  {exe : E → (q : Q) → S → R q × S}

/-- The programs are alike, one by one, and so are the states. -/
structure PoolsAlike (L : Likeness Q R) (posts : ι → α → β → Prop) (state : S → S → Prop)
    (c : Pool ι Q R α S) (c' : Pool ι Q R β S) : Prop where
  thread : ∀ i, Alike L (posts i) (c.thread i) (c'.thread i)
  state : state c.state c'.state

/-- Results of alike pools are alike. -/
theorem PoolsAlike.returned {c : Pool ι Q R α S} {c' : Pool ι Q R β S}
    (h : PoolsAlike L posts state c c') {i : ι} {a : α} (ha : c.Returned i a) :
    ∃ b, c'.Returned i b ∧ posts i a b := by
  have hi := h.thread i
  rw [ha] at hi
  cases hb : c'.thread i with
  | ret b =>
    rw [hb] at hi
    cases hi with
    | ret hpost => exact ⟨b, hb, hpost⟩
  | act q k =>
    rw [hb] at hi
    cases hi

variable [DecidableEq ι]

theorem PoolsAlike.step (hL : L.Respects exe env state) {c : Pool ι Q R α S}
    {c' : Pool ι Q R β S} (h : PoolsAlike L posts state c c') (i : ι) {e e' : E} (he : env e e') :
    PoolsAlike L posts state (c.step exe i e) (c'.step exe i e') := by
  have hi := h.thread i
  cases hq : c.thread i with
  | ret a =>
    obtain ⟨b, hb, -⟩ := h.returned hq
    rwa [Pool.step_of_ret hq, Pool.step_of_ret hb]
  | act q k =>
    cases hq' : c'.thread i with
    | ret b =>
      rw [hq, hq'] at hi
      cases hi
    | act q' k' =>
      rw [hq, hq'] at hi
      cases hi with
      | act hact hk =>
        obtain ⟨hreply, hstate⟩ := hL _ _ _ _ _ _ he hact h.state
        refine ⟨fun j => ?_, ?_⟩
        · by_cases hij : j = i
          · subst hij
            rw [Pool.step_thread_self hq, Pool.step_thread_self hq']
            exact hk _ _ hreply
          · rw [Pool.step_thread_ne hij, Pool.step_thread_ne hij]
            exact h.thread j
        · rw [Pool.step_state hq, Pool.step_state hq']
          exact hstate

/-- **Alike pools, on like schedules, stay alike.** -/
theorem PoolsAlike.exec (hL : L.Respects exe env state) {c : Pool ι Q R α S}
    {c' : Pool ι Q R β S} (h : PoolsAlike L posts state c c') {sched sched' : List (ι × E)}
    (hsched : List.Forall₂ (fun x y => x.1 = y.1 ∧ env x.2 y.2) sched sched') :
    PoolsAlike L posts state (c.exec exe sched) (c'.exec exe sched') := by
  induction hsched generalizing c c' with
  | nil => exact h
  | @cons x y sched sched' hxy _ ih =>
    rw [Pool.exec_cons, Pool.exec_cons, ← hxy.1]
    exact ih (h.step hL x.1 hxy.2)

end SampleGrpc
