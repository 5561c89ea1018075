import Mathlib.Logic.Function.Basic
import SampleGrpc.Interaction.Prog

/-!
# Interleaving a pool of programs

A pool is a family of programs over one shared state. A schedule names, step by step, which
program moves and what the environment chooses; a program that has returned ignores its turns.
The index type is arbitrary, so a pool may hold any number of programs, and a program that the
schedule has not named yet is a request that has not arrived.

* `Pool.exec` — run a schedule.
* `Pool.Along` — a condition on every step of a schedule, read in the pool before that step.
* `Pool.exec_invariant` — an invariant of every step is an invariant of every schedule.
* `Pool.exec_bind` — a schedule of programs is one of the same programs with a continuation.
* `Prog.Safe`, `Pool.exec_safe` — the rely–guarantee rule: programs that are safe under what
  the others guarantee are safe together.
-/

namespace SampleGrpc

/-- Programs running side by side, and the state they share. -/
structure Pool (ι : Type) (Q : Type) (R : Q → Type) (α S : Type) where
  thread : ι → Prog Q R α
  state : S

namespace Pool

variable {ι Q : Type} {R : Q → Type} {α S E : Type}

/-- Program `i` has returned `a`. -/
def Returned (c : Pool ι Q R α S) (i : ι) (a : α) : Prop := c.thread i = .ret a

instance [DecidableEq α] (c : Pool ι Q R α S) (i : ι) (a : α) : Decidable (c.Returned i a) :=
  match h : c.thread i with
  | .ret b => decidable_of_iff (b = a) (by simp [Returned, h])
  | .act _ _ => .isFalse (by simp [Returned, h])

/-- The action that program `i` performs next, if any, satisfies `ok`. -/
def Admits (ok : ι → E → Q → S → Prop) (c : Pool ι Q R α S) (i : ι) (e : E) : Prop :=
  match c.thread i with
  | .ret _ => True
  | .act q _ => ok i e q c.state

theorem Admits.act {ok : ι → E → Q → S → Prop} {c : Pool ι Q R α S} {i : ι} {e : E}
    (h : c.Admits ok i e) {q : Q} {k : R q → Prog Q R α} (hq : c.thread i = .act q k) :
    ok i e q c.state := by
  simpa [Admits, hq] using h

theorem Admits.mono {ok ok' : ι → E → Q → S → Prop} {c : Pool ι Q R α S} {i : ι} {e : E}
    (h : c.Admits ok i e) (hok : ∀ q s, ok i e q s → ok' i e q s) : c.Admits ok' i e := by
  cases hi : c.thread i with
  | ret a => simp [Admits, hi]
  | act q k => simpa [Admits, hi] using hok q _ (h.act hi)

instance {ok : ι → E → Q → S → Prop} [∀ i e q s, Decidable (ok i e q s)] (c : Pool ι Q R α S)
    (i : ι) (e : E) : Decidable (c.Admits ok i e) :=
  match h : c.thread i with
  | .ret _ => .isTrue (by simp [Admits, h])
  | .act q _ => decidable_of_iff (ok i e q c.state) (by simp [Admits, h])

variable [DecidableEq ι]

/-- Program `i` performs its next action, with the environment's choice `e`. -/
def step (exec : E → (q : Q) → S → R q × S) (c : Pool ι Q R α S) (i : ι) (e : E) :
    Pool ι Q R α S :=
  match c.thread i with
  | .ret _ => c
  | .act q k =>
    { thread := Function.update c.thread i (k (exec e q c.state).1)
      state := (exec e q c.state).2 }

/-- Run a schedule. -/
def exec (exe : E → (q : Q) → S → R q × S) : Pool ι Q R α S → List (ι × E) → Pool ι Q R α S
  | c, [] => c
  | c, (i, e) :: sched => (c.step exe i e).exec exe sched

variable {exe : E → (q : Q) → S → R q × S}

@[simp] theorem exec_nil (c : Pool ι Q R α S) : c.exec exe [] = c := rfl

@[simp] theorem exec_cons (c : Pool ι Q R α S) (i : ι) (e : E) (sched : List (ι × E)) :
    c.exec exe ((i, e) :: sched) = (c.step exe i e).exec exe sched := rfl

theorem exec_append (c : Pool ι Q R α S) (xs ys : List (ι × E)) :
    c.exec exe (xs ++ ys) = (c.exec exe xs).exec exe ys := by
  induction xs generalizing c with
  | nil => rfl
  | cons x xs ih => exact ih (c.step exe x.1 x.2)

theorem step_of_ret {c : Pool ι Q R α S} {i : ι} {a : α} (h : c.thread i = .ret a) (e : E) :
    c.step exe i e = c := by
  simp [step, h]

theorem step_state {c : Pool ι Q R α S} {i : ι} {q : Q} {k : R q → Prog Q R α}
    (h : c.thread i = .act q k) (e : E) : (c.step exe i e).state = (exe e q c.state).2 := by
  simp [step, h]

theorem step_thread_self {c : Pool ι Q R α S} {i : ι} {q : Q} {k : R q → Prog Q R α}
    (h : c.thread i = .act q k) (e : E) :
    (c.step exe i e).thread i = k (exe e q c.state).1 := by
  simp [step, h]

theorem step_thread_ne {c : Pool ι Q R α S} {i j : ι} (hne : j ≠ i) (e : E) :
    (c.step exe i e).thread j = c.thread j := by
  cases h : c.thread i <;> simp [step, h, hne]

/-- A program that the schedule does not name waits. -/
theorem exec_thread_ne {c : Pool ι Q R α S} {j : ι} {sched : List (ι × E)}
    (h : ∀ x ∈ sched, x.1 ≠ j) : (c.exec exe sched).thread j = c.thread j := by
  induction sched generalizing c with
  | nil => rfl
  | cons x sched ih =>
    rw [exec_cons, ih fun y hy => h y (List.mem_cons_of_mem _ hy)]
    exact step_thread_ne (h x List.mem_cons_self).symm x.2

/-- A program that has returned stays returned. -/
theorem Returned.step {c : Pool ι Q R α S} {j : ι} {a : α} (h : c.Returned j a) (i : ι) (e : E) :
    (c.step exe i e).Returned j a := by
  by_cases hij : j = i
  · subst hij
    rwa [step_of_ret h]
  · rwa [Returned, step_thread_ne hij]

theorem Returned.exec {c : Pool ι Q R α S} {j : ι} {a : α} (h : c.Returned j a)
    (sched : List (ι × E)) : (c.exec exe sched).Returned j a := by
  induction sched generalizing c with
  | nil => exact h
  | cons x sched ih => exact ih (h.step x.1 x.2)

/-! ## Conditions along a schedule -/

/-- `P` holds of every step of the schedule, in the pool before it. -/
def Along (exe : E → (q : Q) → S → R q × S) (P : Pool ι Q R α S → ι → E → Prop) :
    Pool ι Q R α S → List (ι × E) → Prop
  | _, [] => True
  | c, (i, e) :: sched => P c i e ∧ Along exe P (c.step exe i e) sched

instance Along.decidable {P : Pool ι Q R α S → ι → E → Prop} [∀ c i e, Decidable (P c i e)] :
    ∀ (c : Pool ι Q R α S) (sched : List (ι × E)), Decidable (Along exe P c sched)
  | _, [] => .isTrue trivial
  | c, (i, e) :: sched =>
    have : Decidable (Along exe P (c.step exe i e) sched) := Along.decidable _ sched
    inferInstanceAs (Decidable (P c i e ∧ Along exe P (c.step exe i e) sched))

theorem along_append {P : Pool ι Q R α S → ι → E → Prop} {c : Pool ι Q R α S}
    {xs ys : List (ι × E)} :
    Along exe P c (xs ++ ys) ↔ Along exe P c xs ∧ Along exe P (c.exec exe xs) ys := by
  induction xs generalizing c with
  | nil => simp [Along]
  | cons x xs ih =>
    obtain ⟨i, e⟩ := x
    simp only [List.cons_append, Along, exec_cons, ih, and_assoc]

theorem Along.mono {P P' : Pool ι Q R α S → ι → E → Prop} {c : Pool ι Q R α S}
    {sched : List (ι × E)} (h : Along exe P c sched) (hP : ∀ c i e, P c i e → P' c i e) :
    Along exe P' c sched := by
  induction sched generalizing c with
  | nil => trivial
  | cons x sched ih => exact ⟨hP _ _ _ h.1, ih h.2⟩

theorem Along.and {P P' : Pool ι Q R α S → ι → E → Prop} {c : Pool ι Q R α S}
    {sched : List (ι × E)} (h : Along exe P c sched) (h' : Along exe P' c sched) :
    Along exe (fun c i e => P c i e ∧ P' c i e) c sched := by
  induction sched generalizing c with
  | nil => trivial
  | cons x sched ih => exact ⟨⟨h.1, h'.1⟩, ih h.2 h'.2⟩

theorem along_of_mem {P : Pool ι Q R α S → ι → E → Prop} {sched : List (ι × E)}
    (h : ∀ x ∈ sched, ∀ c, P c x.1 x.2) (c : Pool ι Q R α S) : Along exe P c sched := by
  induction sched generalizing c with
  | nil => trivial
  | cons x sched ih =>
    exact ⟨h x List.mem_cons_self c, ih (fun y hy => h y (List.mem_cons_of_mem _ hy)) _⟩

theorem along_of_forall {P : Pool ι Q R α S → ι → E → Prop} (h : ∀ c i e, P c i e)
    (c : Pool ι Q R α S) (sched : List (ι × E)) : Along exe P c sched := by
  induction sched generalizing c with
  | nil => trivial
  | cons x sched ih => exact ⟨h _ _ _, ih _⟩

theorem along_admits_true (c : Pool ι Q R α S) (sched : List (ι × E)) :
    Along exe (fun c i e => c.Admits (fun _ _ _ _ => True) i e) c sched :=
  along_of_forall (fun c i _ => by cases h : c.thread i <;> simp [Admits, h]) c sched

/-- **The invariant rule.** What every admitted step preserves, every schedule preserves. -/
theorem exec_invariant {P : Pool ι Q R α S → ι → E → Prop} (Inv : Pool ι Q R α S → Prop)
    (step : ∀ c i e, P c i e → Inv c → Inv (c.step exe i e))
    {c : Pool ι Q R α S} {sched : List (ι × E)} (hsched : Along exe P c sched) (hc : Inv c) :
    Inv (c.exec exe sched) := by
  induction sched generalizing c with
  | nil => exact hc
  | cons x sched ih => exact ih hsched.2 (step c x.1 x.2 hsched.1 hc)

/-- Programs confined to actions in `P i`, over a state invariant that those actions preserve. -/
theorem step_uses {P : ι → Q → Prop} {ok : ι → E → Q → S → Prop} {Inv : S → Prop}
    (hexec : ∀ i e q s, ok i e q s → P i q → Inv s → Inv (exe e q s).2)
    {c : Pool ι Q R α S} {i : ι} {e : E} (hok : c.Admits ok i e)
    (h : (∀ j, (c.thread j).Uses (P j)) ∧ Inv c.state) :
    (∀ j, ((c.step exe i e).thread j).Uses (P j)) ∧ Inv (c.step exe i e).state := by
  cases hi : c.thread i with
  | ret a => rwa [step_of_ret hi]
  | act q k =>
    have hu : (Prog.act q k).Uses (P i) := hi ▸ h.1 i
    refine ⟨fun j => ?_, ?_⟩
    · by_cases hij : j = i
      · subst hij
        rw [step_thread_self hi]
        exact hu.2 _
      · rw [step_thread_ne hij]
        exact h.1 j
    · rw [step_state hi]
      exact hexec i e q c.state (hok.act hi) hu.1 h.2

/-- **The invariant rule for confined programs.** -/
theorem exec_uses {P : ι → Q → Prop} {ok : ι → E → Q → S → Prop} {Inv : S → Prop}
    (hexec : ∀ i e q s, ok i e q s → P i q → Inv s → Inv (exe e q s).2)
    {c : Pool ι Q R α S} {sched : List (ι × E)}
    (hsched : Along exe (fun c i e => c.Admits ok i e) c sched)
    (hthread : ∀ j, (c.thread j).Uses (P j)) (hc : Inv c.state) :
    (∀ j, ((c.exec exe sched).thread j).Uses (P j)) ∧ Inv (c.exec exe sched).state :=
  exec_invariant (fun c => (∀ j, (c.thread j).Uses (P j)) ∧ Inv c.state)
    (fun _ _ _ hok h => step_uses hexec hok h) hsched ⟨hthread, hc⟩

/-- Confined programs stay confined. -/
theorem exec_thread_uses {P : ι → Q → Prop} {c : Pool ι Q R α S}
    (h : ∀ j, (c.thread j).Uses (P j)) (sched : List (ι × E)) (j : ι) :
    ((c.exec exe sched).thread j).Uses (P j) := by
  have hany (i : ι) (e : E) (q : Q) (s : S) (_ : True) (_ : P i q) (_ : s = s) :
      (exe e q s).2 = (exe e q s).2 := rfl
  exact (exec_uses hany (along_admits_true c sched) h rfl).1 j

/-- The schedule that runs one program up to a point of its own. -/
theorem exists_exec_of_runs {ok : E → Q → S → Prop} {β : Type} {p : Prog Q R β} {s s' : S} {b : β}
    (h : p.Runs exe ok s b s') {c : Pool ι Q R α S} {i : ι} {f : β → Prog Q R α}
    (hstate : c.state = s) (hthread : c.thread i = p >>= f) :
    ∃ sched : List (ι × E), (∀ x ∈ sched, x.1 = i ∧ ∃ q s, ok x.2 q s) ∧
      Along exe (fun c i e => c.Admits (fun _ => ok) i e) c sched ∧
      c.exec exe sched = ⟨Function.update c.thread i (f b), s'⟩ := by
  induction h generalizing c with
  | ret b s =>
    refine ⟨[], by simp, trivial, ?_⟩
    rw [← hstate, exec_nil, ← show c.thread i = f b from hthread, Function.update_eq_self]
  | @act q k s s' b e he h ih =>
    rw [Prog.act_bind] at hthread
    obtain ⟨sched, hok, halong, hexec⟩ := ih (c := c.step exe i e)
      (by rw [step_state hthread, hstate]) (by rw [step_thread_self hthread, hstate])
    refine ⟨(i, e) :: sched, ?_, ⟨?_, halong⟩, ?_⟩
    · simpa using ⟨⟨q, s, he⟩, fun a b hx => hok (a, b) hx⟩
    · simpa [Admits, hthread, hstate] using he
    · rw [exec_cons, hexec]
      congr 1
      funext j
      by_cases hij : j = i
      · simp [hij]
      · simp [hij, step_thread_ne hij]

/-! ## Programs with a continuation -/

section Bind

variable {β : Type}

/-- Every program, with a continuation of its own. -/
def bind (c : Pool ι Q R β S) (f : ι → β → Prog Q R α) : Pool ι Q R α S :=
  { thread := fun i => c.thread i >>= f i, state := c.state }

/-- Program `i` has not returned. -/
def Moves (c : Pool ι Q R β S) (i : ι) : Prop :=
  match c.thread i with
  | .ret _ => False
  | .act _ _ => True

instance (c : Pool ι Q R β S) (i : ι) : Decidable (c.Moves i) :=
  match h : c.thread i with
  | .ret _ => .isFalse (by simp [Moves, h])
  | .act _ _ => .isTrue (by simp [Moves, h])

/-- As long as a program has not returned, its continuation waits. -/
theorem step_bind {c : Pool ι Q R β S} {i : ι} (h : c.Moves i) (f : ι → β → Prog Q R α) (e : E) :
    (c.bind f).step exe i e = (c.step exe i e).bind f := by
  cases hi : c.thread i with
  | ret b => simp [Moves, hi] at h
  | act q k =>
    simp only [bind, step, hi, Prog.act_bind]
    congr 1
    funext j
    by_cases hij : j = i
    · subst hij
      simp
    · simp [hij]

theorem exec_bind {c : Pool ι Q R β S} {sched : List (ι × E)}
    (h : Along exe (fun c i _ => c.Moves i) c sched) (f : ι → β → Prog Q R α) :
    (c.bind f).exec exe sched = (c.exec exe sched).bind f := by
  induction sched generalizing c with
  | nil => rfl
  | cons x sched ih => rw [exec_cons, step_bind h.1, ih h.2, exec_cons]

omit [DecidableEq ι] in
theorem Admits.bind {ok : ι → E → Q → S → Prop} {c : Pool ι Q R β S} {i : ι} {e : E}
    (h : c.Moves i) (hok : c.Admits ok i e) (f : ι → β → Prog Q R α) :
    (c.bind f).Admits ok i e := by
  cases hi : c.thread i with
  | ret b => simp [Moves, hi] at h
  | act q k => simpa [Admits, Pool.bind, hi] using hok

theorem Along.bind {ok : ι → E → Q → S → Prop} {c : Pool ι Q R β S} {sched : List (ι × E)}
    (h : Along exe (fun c i _ => c.Moves i) c sched)
    (hok : Along exe (fun c i e => c.Admits ok i e) c sched) (f : ι → β → Prog Q R α) :
    Along exe (fun c i e => c.Admits ok i e) (c.bind f) sched := by
  induction sched generalizing c with
  | nil => trivial
  | cons x sched ih =>
    refine ⟨hok.1.bind h.1 f, ?_⟩
    rw [step_bind h.1]
    exact ih h.2 hok.2

end Bind

end Pool

/-! ## Rely and guarantee -/

namespace Prog

variable {Q : Type} {R : Q → Type} {α β S E : Type}

/-- From `s`, under interference by `rely` steps between its actions and environment choices in
`ok`, every action of the program is a `guar` step and its result satisfies `post`. -/
def Safe (exec : E → (q : Q) → S → R q × S) (ok : E → Q → S → Prop) (rely guar : S → S → Prop)
    (post : α → S → Prop) : Prog Q R α → S → Prop
  | .ret a, s => ∀ s', rely s s' → post a s'
  | .act q k, s => ∀ s', rely s s' → ∀ e, ok e q s' →
      guar s' (exec e q s').2 ∧ Safe exec ok rely guar post (k (exec e q s').1) (exec e q s').2

variable {exec : E → (q : Q) → S → R q × S} {ok : E → Q → S → Prop} {rely guar : S → S → Prop}

/-- Safety survives interference. -/
theorem Safe.stable {post : α → S → Prop} (trans : ∀ s₁ s₂ s₃, rely s₁ s₂ → rely s₂ s₃ → rely s₁ s₃)
    {p : Prog Q R α} {s s' : S} (h : p.Safe exec ok rely guar post s) (hs : rely s s') :
    p.Safe exec ok rely guar post s' := by
  cases p with
  | ret a => exact fun s'' hs' => h s'' (trans _ _ _ hs hs')
  | act q k => exact fun s'' hs' => h s'' (trans _ _ _ hs hs')

theorem Safe.weaken {post post' : α → S → Prop} {p : Prog Q R α} {s : S}
    (h : p.Safe exec ok rely guar post s) (hpost : ∀ a s, post a s → post' a s) :
    p.Safe exec ok rely guar post' s := by
  induction p generalizing s with
  | ret a => exact fun s' hs => hpost a s' (h s' hs)
  | act q k ih =>
    intro s' hs e he
    obtain ⟨hg, hk⟩ := h s' hs e he
    exact ⟨hg, ih _ hk⟩

theorem Safe.and {post post' : α → S → Prop} {p : Prog Q R α} {s : S}
    (h : p.Safe exec ok rely guar post s) (h' : p.Safe exec ok rely guar post' s) :
    p.Safe exec ok rely guar (fun a s => post a s ∧ post' a s) s := by
  induction p generalizing s with
  | ret a => exact fun s' hs => ⟨h s' hs, h' s' hs⟩
  | act q k ih =>
    intro s' hs e he
    exact ⟨(h s' hs e he).1, ih _ (h s' hs e he).2 (h' s' hs e he).2⟩

theorem Safe.bind {post : α → S → Prop} {post' : β → S → Prop} (refl : ∀ s, rely s s)
    {p : Prog Q R α} {f : α → Prog Q R β} {s : S} (hp : p.Safe exec ok rely guar post s)
    (hf : ∀ a s, post a s → (f a).Safe exec ok rely guar post' s) :
    (p >>= f).Safe exec ok rely guar post' s := by
  induction p generalizing s with
  | ret a => exact hf a s (hp s (refl s))
  | act q k ih =>
    intro s' hs e he
    obtain ⟨hg, hk⟩ := hp s' hs e he
    exact ⟨hg, ih _ hk⟩

/-- A program confined to actions that are guaranteed, over a condition that nobody breaks. -/
theorem Uses.safe {P : Q → Prop} {p : Prog Q R α} {s : S} (hp : p.Uses P) (Inv : S → Prop)
    (hexec : ∀ e q s, ok e q s → P q → guar s (exec e q s).2)
    (hrely : ∀ s s', rely s s' → Inv s → Inv s') (hguar : ∀ s s', guar s s' → Inv s → Inv s')
    (hs : Inv s) : p.Safe exec ok rely guar (fun _ s => Inv s) s := by
  induction p generalizing s with
  | ret a => exact fun s' hs' => hrely s s' hs' hs
  | act q k ih =>
    intro s' hs' e he
    have hg := hexec e q s' he hp.1
    exact ⟨hg, ih _ (hp.2 _) (hguar _ _ hg (hrely s s' hs' hs))⟩

end Prog

namespace Pool

variable {ι Q : Type} {R : Q → Type} {α S E : Type} [DecidableEq ι]
variable {exe : E → (q : Q) → S → R q × S} {ok : ι → E → Q → S → Prop}
variable {rely guar : ι → S → S → Prop} {post : ι → α → S → Prop}

/-- One step of a pool of safe programs leaves them safe. -/
theorem step_safe (refl : ∀ i s, rely i s s)
    (trans : ∀ i s₁ s₂ s₃, rely i s₁ s₂ → rely i s₂ s₃ → rely i s₁ s₃)
    (compat : ∀ i j, j ≠ i → ∀ s s', guar i s s' → rely j s s')
    {c : Pool ι Q R α S} {i : ι} {e : E} (hok : c.Admits ok i e)
    (h : ∀ j, (c.thread j).Safe exe (ok j) (rely j) (guar j) (post j) c.state) (j : ι) :
    ((c.step exe i e).thread j).Safe exe (ok j) (rely j) (guar j) (post j)
      (c.step exe i e).state := by
  cases hi : c.thread i with
  | ret a => rw [step_of_ret hi]; exact h j
  | act q k =>
    have hsafe : (Prog.act q k).Safe exe (ok i) (rely i) (guar i) (post i) c.state := hi ▸ h i
    obtain ⟨hg, hk⟩ := hsafe c.state (refl i _) e (hok.act hi)
    rw [step_state hi]
    by_cases hij : j = i
    · subst hij
      rw [step_thread_self hi]
      exact hk
    · rw [step_thread_ne hij]
      exact (h j).stable (trans j) (compat i j hij _ _ hg)

/-- One step of a pool of safe programs is one that the program which makes it guarantees. -/
theorem step_guar (refl : ∀ i s, rely i s s) (hguar : ∀ i s, guar i s s)
    {c : Pool ι Q R α S} {i : ι} {e : E} (hok : c.Admits ok i e) {post : α → S → Prop}
    (h : (c.thread i).Safe exe (ok i) (rely i) (guar i) post c.state) :
    guar i c.state (c.step exe i e).state := by
  cases hi : c.thread i with
  | ret a => rw [step_of_ret hi]; exact hguar i _
  | act q k =>
    rw [step_state hi]
    rw [hi] at h
    exact (h c.state (refl i _) e (hok.act hi)).1

/-- **The rely–guarantee rule.** In a pool of safe programs, each one's guarantee within what the
others rely on, every result along every admitted schedule satisfies its postcondition. -/
theorem exec_safe (refl : ∀ i s, rely i s s)
    (trans : ∀ i s₁ s₂ s₃, rely i s₁ s₂ → rely i s₂ s₃ → rely i s₁ s₃)
    (compat : ∀ i j, j ≠ i → ∀ s s', guar i s s' → rely j s s')
    {c : Pool ι Q R α S} {sched : List (ι × E)}
    (hsched : Along exe (fun c i e => c.Admits ok i e) c sched)
    (h : ∀ j, (c.thread j).Safe exe (ok j) (rely j) (guar j) (post j) c.state)
    {i : ι} {a : α} (hret : (c.exec exe sched).Returned i a) :
    post i a (c.exec exe sched).state := by
  have hall := exec_invariant
    (fun c => ∀ j, (c.thread j).Safe exe (ok j) (rely j) (guar j) (post j) c.state)
    (fun _ _ _ hok hc => step_safe refl trans compat hok hc) hsched h i
  rw [hret] at hall
  exact hall _ (refl i _)

end Pool

end SampleGrpc
