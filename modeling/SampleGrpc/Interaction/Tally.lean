import Mathlib.Algebra.BigOperators.Group.Finset.Piecewise
import Mathlib.Data.Fintype.Defs
import SampleGrpc.Interaction.Pool

/-!
# Tallies

An account that the state of a pool holds, and what each action adds to it. Where the replies of
the actions say what they add, the sum of what a program adds is a matter of the program alone, and
the account of a whole pool is the sum over its programs, in whatever order they moved.

* `Prog.Tallies` — the result and the sum of what is added, whatever the replies.
* `Pool.exec_tally` — the account of a pool.
-/

namespace SampleGrpc

variable {Q : Type} {R : Q → Type} {α β S E M : Type} [AddCommMonoid M]

/-- Whatever the replies, the program's result and the sum of its gains satisfy `P`. -/
def Prog.Tallies (gain : (q : Q) → R q → M) : Prog Q R α → (α → M → Prop) → Prop
  | .ret a, P => P a 0
  | .act q k, P => ∀ r, (k r).Tallies gain fun a m => P a (gain q r + m)

theorem Prog.Tallies.mono {gain : (q : Q) → R q → M} {p : Prog Q R α} {P P' : α → M → Prop}
    (h : p.Tallies gain P) (hP : ∀ a m, P a m → P' a m) : p.Tallies gain P' := by
  induction p generalizing P P' with
  | ret a => exact hP a 0 h
  | act q k ih => exact fun r => ih r (h r) fun a m => hP a _

/-- Programs in sequence add one after the other. -/
theorem Prog.Tallies.bind {gain : (q : Q) → R q → M} {p : Prog Q R α} {f : α → Prog Q R β}
    {P : α → M → Prop} {P' : β → M → Prop} (hp : p.Tallies gain P)
    (hf : ∀ a m, P a m → (f a).Tallies gain fun b m' => P' b (m + m')) :
    (p >>= f).Tallies gain P' := by
  induction p generalizing P P' with
  | ret a => exact (hf a 0 hp).mono fun b m h => by rwa [zero_add] at h
  | act q k ih =>
    refine fun r => ih r (hp r) fun a m hm => (hf a _ hm).mono fun b m' h => ?_
    rwa [← add_assoc]

namespace Pool

variable {ι : Type} {gain : (q : Q) → R q → M} {account : S → M}
  {exe : E → (q : Q) → S → R q × S}

/-- With what it has still to add, each program ends as it should. -/
def Owing (gain : (q : Q) → R q → M) (P : ι → α → M → Prop) (c : Pool ι Q R α S) : Prop :=
  ∀ i, ∃ paid : M, (c.thread i).Tallies gain fun a m => P i a (paid + m)

theorem Owing.returned {P : ι → α → M → Prop} {c : Pool ι Q R α S} (h : c.Owing gain P) {i : ι}
    {a : α} (ha : c.Returned i a) : ∃ m, P i a m := by
  obtain ⟨paid, hi⟩ := h i
  rw [ha] at hi
  exact ⟨_, hi⟩

variable [DecidableEq ι]

theorem Owing.step {P : ι → α → M → Prop} {c : Pool ι Q R α S} (h : c.Owing gain P) (i : ι)
    (e : E) : (c.step exe i e).Owing gain P := by
  intro j
  obtain ⟨paid, hj⟩ := h j
  by_cases hij : j = i
  · subst hij
    cases hthread : c.thread j with
    | ret a =>
      rw [step_of_ret hthread]
      exact ⟨paid, hj⟩
    | act q k =>
      rw [hthread] at hj
      rw [step_thread_self hthread]
      exact ⟨_, (hj _).mono fun a m hP => by rwa [add_assoc]⟩
  · rw [step_thread_ne hij]
    exact ⟨paid, hj⟩

variable [Fintype ι]

/-- The account is `start` and what each program has added, and with what it has still to add each
program ends as it should. -/
def Tallied (gain : (q : Q) → R q → M) (account : S → M) (P : ι → α → M → Prop) (start : M)
    (c : Pool ι Q R α S) : Prop :=
  ∃ paid : ι → M, account c.state = start + ∑ i, paid i ∧
    ∀ i, (c.thread i).Tallies gain fun a m => P i a (paid i + m)

theorem sum_update_add (paid : ι → M) (i : ι) (m : M) :
    ∑ j, Function.update paid i (paid i + m) j = ∑ j, paid j + m := by
  rw [Finset.sum_update_of_mem (Finset.mem_univ i), ← Finset.sum_erase_add _ _ (Finset.mem_univ i),
    Finset.sdiff_singleton_eq_erase]
  ac_rfl

/-- **One step of a tallied pool.** -/
theorem Tallied.step (hexec : ∀ e q s, account (exe e q s).2 = account s + gain q (exe e q s).1)
    {P : ι → α → M → Prop} {start : M} {c : Pool ι Q R α S} (h : c.Tallied gain account P start)
    (i : ι) (e : E) : (c.step exe i e).Tallied gain account P start := by
  obtain ⟨paid, haccount, hthread⟩ := h
  cases hi : c.thread i with
  | ret a =>
    rw [step_of_ret hi]
    exact ⟨paid, haccount, hthread⟩
  | act q k =>
    have hown := hthread i
    rw [hi] at hown
    refine ⟨Function.update paid i (paid i + gain q (exe e q c.state).1), ?_, fun j => ?_⟩
    · rw [step_state hi, hexec, haccount, sum_update_add, add_assoc]
    · by_cases hij : j = i
      · subst hij
        rw [step_thread_self hi, Function.update_self]
        exact (hown _).mono fun a m hP => by rwa [add_assoc]
      · rw [step_thread_ne hij, Function.update_of_ne hij]
        exact hthread j

/-- **The account of a pool** is the sum of what its programs add, and a program that has returned
has added what it should. -/
theorem exec_tally (hexec : ∀ e q s, account (exe e q s).2 = account s + gain q (exe e q s).1)
    {P : ι → α → M → Prop} {c : Pool ι Q R α S} (h : ∀ i, (c.thread i).Tallies gain (P i))
    (sched : List (ι × E)) :
    ∃ paid : ι → M, account (c.exec exe sched).state = account c.state + ∑ i, paid i ∧
      ∀ i a, (c.exec exe sched).Returned i a → P i a (paid i) := by
  have hstart : c.Tallied gain account P (account c.state) :=
    ⟨fun _ => 0, by simp, by simpa using h⟩
  obtain ⟨paid, haccount, hthread⟩ := exec_invariant (Tallied gain account P (account c.state))
    (fun c i e _ hc => hc.step hexec i e) (along_admits_true c sched) hstart
  refine ⟨paid, haccount, fun i a hi => ?_⟩
  have hown := hthread i
  rw [hi] at hown
  simpa [Prog.Tallies] using hown

end Pool

end SampleGrpc
