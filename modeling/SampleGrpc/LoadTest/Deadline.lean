import SampleGrpc.LoadTest.Workers

/-!
# The load test ends

The deadline is checked only between calls, the workers queue for one lock, and `main` waits for all
of them. Yet no state of the goroutines is a deadlock, and once the deadline has passed a bounded
number of statements is left.

* `LockHeld` — whoever has the lock is going to give it back.
* `exists_enabled` — no deadlock.
* `remaining` — how many statements are left when the deadline has passed.
* `loadTest_ends` — the test ends.
-/

namespace SampleGrpc.LoadTest

variable {n : ℕ} {w w' : World n} {k : Fin n} {v : Worker} {e : Event n}
  {hist : List (Entry (World n) (Event n))}

/-! ## The lock is given back -/

/-- Whoever has the lock is between `Lock` and `Unlock`. -/
def LockHeld (w : World n) : Prop := ∀ k, w.latMu = some k → (w.workers k).pc.Critical

/-- A move of a worker that does not take the lock and leaves `Lock` … `Unlock` only with it. -/
theorem LockHeld.put (h : LockHeld w) (hworkers : w'.workers = Function.update w.workers k v)
    (hmu : ∀ j, w'.latMu = some j → j = k ∧ v.pc.Critical ∨ j ≠ k ∧ w.latMu = some j) :
    LockHeld w' := by
  intro j hj
  rw [hworkers]
  obtain ⟨rfl, hcrit⟩ | ⟨hne, hold⟩ := hmu j hj
  · rwa [Function.update_self]
  · rw [Function.update_of_ne hne]
    exact h j hold

/-- A worker outside `Lock` … `Unlock` has not got the lock. -/
theorem LockHeld.other (h : LockHeld w) (hpc : ¬ (w.workers k).pc.Critical) {j : Fin n}
    (hj : w.latMu = some j) : j ≠ k ∧ w.latMu = some j := by
  refine ⟨fun hjk => hpc ?_, hj⟩
  subst hjk
  exact h j hj

theorem LockHeld.next (h : LockHeld w) (hsound : Sound w) (he : Enabled w e) :
    LockHeld (next w e) := by
  cases e with
  | deadline | wait => exact h
  | start k =>
    have hidle := hsound.idle_of_next he
    exact h.put rfl fun j hj => .inr (h.other (by simp [Pc.Critical, hidle]) hj)
  | select k | send k | echo k | count k | finish k =>
    have hpc : (w.workers k).pc = _ := he
    exact h.put rfl fun j hj => .inr (h.other (by simp [Pc.Critical, hpc]) hj)
  | record k =>
    have hpc : (w.workers k).pc = .record := he
    by_cases hfailed : (w.workers k).reqErr.isSome
    · rw [next_record_failed hfailed]
      exact h.put rfl fun j hj => .inr (h.other (by simp [Pc.Critical, hpc]) hj)
    · rw [next_record_ok (by simpa using hfailed)]
      exact h.put rfl fun j hj => .inr (h.other (by simp [Pc.Critical, hpc]) hj)
  | lock k =>
    exact h.put rfl fun j hj => .inl ⟨(Option.some.inj hj).symm, by simp [Pc.Critical]⟩
  | read k | write k =>
    have hpc : (w.workers k).pc = _ := he
    have hmine : w.latMu = some k := hsound.holds k (by simp [Pc.Critical, hpc])
    exact h.put rfl fun j hj => .inl ⟨Option.some.inj (hj.symm.trans hmine), by simp [Pc.Critical]⟩
  | unlock k => exact h.put rfl fun j hj => by cases hj

theorem lockHeld_of_test (h : Test hist w) : LockHeld w := by
  induction h with
  | nil =>
    intro k hk
    cases hk
  | snoc h hs ih =>
    obtain ⟨he, rfl⟩ := hs
    exact ih.next (sound_of_test h) he

/-! ## No deadlock -/

/-- When all workers have been started and have returned, the wait group is done. -/
theorem wg_of_returned (h : Test hist w) (hret : ∀ k, (w.workers k).pc = .returned) : w.wg = 0 := by
  have hheld : ((ledger n).held w).2.2.2 = 0 := by rw [held_of_test h, earned_eq]
  have hlive : ∑ j, (w.workers j).live = 0 :=
    Finset.sum_eq_zero fun j _ => by simp [Worker.live, hret j]
  have hsum : -w.wg + ∑ j, (w.workers j).live = 0 := by
    simpa only [Ledger.held, ledger, Worker.share, Prod.snd_add, Prod.snd_sum] using hheld
  omega

/-- The next statement of a worker that has been started and has not returned. -/
theorem exists_enabled_of_worker (hheld : LockHeld w) (hidle : (w.workers k).pc ≠ .idle)
    (hret : (w.workers k).pc ≠ .returned) : ∃ e, e ≠ .deadline ∧ e ≠ .wait ∧ Enabled w e := by
  cases hpc : (w.workers k).pc with
  | idle => exact absurd hpc hidle
  | returned => exact absurd hpc hret
  | select => exact ⟨.select k, by simp, by simp, hpc⟩
  | send => exact ⟨.send k ⟨0, by decide⟩, by simp, by simp, hpc⟩
  | call => exact ⟨.echo k 0 none, by simp, by simp, hpc⟩
  | count => exact ⟨.count k, by simp, by simp, hpc⟩
  | record => exact ⟨.record k, by simp, by simp, hpc⟩
  | read => exact ⟨.read k, by simp, by simp, hpc⟩
  | write => exact ⟨.write k, by simp, by simp, hpc⟩
  | unlock => exact ⟨.unlock k, by simp, by simp, hpc⟩
  | finish => exact ⟨.finish k, by simp, by simp, hpc⟩
  | lock =>
    cases hmu : w.latMu with
    | none => exact ⟨.lock k, by simp, by simp, hpc, hmu⟩
    | some j =>
      -- The worker is blocked, and whoever has the lock is not.
      obtain hj | hj | hj := hheld j hmu
      · exact ⟨.read j, by simp, by simp, hj⟩
      · exact ⟨.write j, by simp, by simp, hj⟩
      · exact ⟨.unlock j, by simp, by simp, hj⟩

/-- The number of started workers is at most the number of workers. -/
theorem started_le (h : Test hist w) : w.i ≤ n := by
  refine h.invariant (fun _ w => w.i ≤ n) (Nat.zero_le n) fun _ w e w' hi hs => ?_
  obtain ⟨he, rfl⟩ := hs
  cases e with
  | start k =>
    have hk : (k : ℕ) = w.i := he
    show w.i + 1 ≤ n
    omega
  | record k =>
    by_cases hfailed : (w.workers k).reqErr.isSome
    · rwa [next_record_failed hfailed]
    · rwa [next_record_ok (by simpa using hfailed)]
  | _ => exact hi

/-- **No deadlock**: until `main` has waited, something other than the deadline can happen. -/
theorem exists_enabled (h : Test hist w) (hw : w.waited = false) :
    ∃ e, e ≠ .deadline ∧ (e = .wait → w.waited = false) ∧ Enabled w e := by
  by_cases hall : ∀ k, (w.workers k).pc = .returned
  · have hi : w.i = n := by
      by_contra hne
      have hlt : w.i < n := lt_of_le_of_ne (started_le h) hne
      have hnot : ¬ (⟨w.i, hlt⟩ : Fin n).val < w.i := lt_irrefl _
      rw [(sound_of_test h).started, hall] at hnot
      exact hnot (by simp)
    exact ⟨.wait, by simp, fun _ => hw, hi, wg_of_returned h hall⟩
  · obtain ⟨k, hk⟩ := not_forall.mp hall
    by_cases hidle : (w.workers k).pc = .idle
    · -- A worker is left to be started, so the next one can be.
      have hle : w.i ≤ k := not_lt.mp fun hlt => ((sound_of_test h).started k).mp hlt hidle
      exact ⟨.start ⟨w.i, lt_of_le_of_lt hle k.isLt⟩, by simp, by simp, rfl⟩
    · obtain ⟨e, hne, hwait, he⟩ := exists_enabled_of_worker (lockHeld_of_test h) hidle hk
      exact ⟨e, hne, fun heq => absurd heq hwait, he⟩

/-! ## What is left after the deadline -/

/-- The statements left to a worker when the deadline has passed. -/
def Pc.left : Pc → ℕ
  | .idle => 11
  | .send => 10
  | .call => 9
  | .count => 8
  | .record => 7
  | .select => 6
  | .lock => 5
  | .read => 4
  | .write => 3
  | .unlock => 2
  | .finish => 1
  | .returned => 0

/-- The statements left when the deadline has passed. -/
def remaining (w : World n) : ℕ := ∑ k, (w.workers k).pc.left + if w.waited then 0 else 1

theorem remaining_le (w : World n) : remaining w ≤ 11 * n + 1 := by
  have hleft (pc : Pc) : pc.left ≤ 11 := by cases pc <;> simp [Pc.left]
  have hsum : ∑ k, (w.workers k).pc.left ≤ ∑ _k : Fin n, 11 :=
    Finset.sum_le_sum fun k _ => hleft (w.workers k).pc
  rw [Finset.sum_const, Finset.card_univ, Fintype.card_fin, smul_eq_mul] at hsum
  unfold remaining
  split <;> omega

/-- A move of one worker to a later statement. -/
theorem remaining_put (hworkers : w'.workers = Function.update w.workers k v)
    (hwaited : w'.waited = w.waited) (hleft : v.pc.left < (w.workers k).pc.left) :
    remaining w' < remaining w := by
  have hsum : ∑ j, (w'.workers j).pc.left < ∑ j, (w.workers j).pc.left := by
    refine Finset.sum_lt_sum (fun j _ => ?_) ⟨k, Finset.mem_univ k, ?_⟩
    · rw [hworkers]
      by_cases hj : j = k
      · subst hj
        rw [Function.update_self]
        exact hleft.le
      · rw [Function.update_of_ne hj]
    · rwa [hworkers, Function.update_self]
  rw [remaining, remaining, hwaited]
  omega

/-- The event is not the deadline, and not a second return of `wg.Wait`. -/
def Progress (w : World n) (e : Event n) : Prop :=
  e ≠ .deadline ∧ (e = .wait → w.waited = false)

/-- **After the deadline every statement is one of those that are left.** -/
theorem remaining_next (hsound : Sound w) (hexp : w.expired = true) (he : Enabled w e)
    (hprogress : Progress w e) : remaining (next w e) < remaining w := by
  cases e with
  | deadline => exact absurd rfl hprogress.1
  | wait =>
    have hw := hprogress.2 rfl
    simp [remaining, next, hw]
  | start k =>
    have hidle := hsound.idle_of_next he
    exact remaining_put rfl rfl (by simp [hidle, Pc.left])
  | select k =>
    have hpc : (w.workers k).pc = .select := he
    exact remaining_put rfl rfl (by simp [hpc, hexp, Pc.left])
  | record k =>
    have hpc : (w.workers k).pc = .record := he
    by_cases hfailed : (w.workers k).reqErr.isSome
    · rw [next_record_failed hfailed]
      exact remaining_put rfl rfl (by simp [hpc, Pc.left])
    · rw [next_record_ok (by simpa using hfailed)]
      exact remaining_put rfl rfl (by simp [hpc, Pc.left])
  | lock k => exact remaining_put rfl rfl (by simp [he.1, Pc.left])
  | send k | echo k | count k | read k | write k | unlock k | finish k =>
    have hpc : (w.workers k).pc = _ := he
    exact remaining_put rfl rfl (by simp [hpc, Pc.left])

theorem expired_next (hexp : w.expired = true) (e : Event n) : (next w e).expired = true := by
  cases e with
  | record k =>
    by_cases hfailed : (w.workers k).reqErr.isSome
    · rwa [next_record_failed hfailed]
    · rwa [next_record_ok (by simpa using hfailed)]
  | deadline => rfl
  | _ => exact hexp

/-- **The load test ends.** Whatever has happened so far, `wg.Wait` has returned or a statement
other than the deadline can be executed; and once the deadline has passed, at most eleven statements
of each worker and the return of `wg.Wait` are left, in whatever order they come. -/
theorem loadTest_ends (h : Test hist w) :
    (w.waited = true ∨ ∃ e w', Progress w e ∧ Step w e w') ∧
    (w.expired = true → ∀ post w', Run Step w post w' →
      (∀ x ∈ post, Progress x.before x.event) → post.length ≤ 11 * n + 1) := by
  refine ⟨?_, fun hexp post w' hrun hprogress => ?_⟩
  · cases hw : w.waited with
    | true => exact .inl rfl
    | false =>
      obtain ⟨e, hne, hwait, he⟩ := exists_enabled h hw
      exact .inr ⟨e, next w e, ⟨hne, fun heq => hw ▸ hwait heq⟩, he, rfl⟩
  · have hdecreases : ∀ x ∈ post, remaining x.after < remaining x.before := by
      intro x hx
      obtain ⟨pre, rest, hpost⟩ := List.append_of_mem hx
      have hbefore : Sound x.before ∧ x.before.expired = true := by
        refine (hrun.split hpost).invariant (fun _ w => Sound w ∧ w.expired = true)
          ⟨sound_of_test h, hexp⟩ fun _ w e w' hw hs => ?_
        obtain ⟨he, rfl⟩ := hs
        exact ⟨hw.1.next he, expired_next hw.2 e⟩
      obtain ⟨he, hnext⟩ := hrun.step_of_mem hx
      rw [hnext]
      exact remaining_next hbefore.1 hbefore.2 he (hprogress x hx)
    have hlength := hrun.length_le remaining hdecreases
    have hle := remaining_le w
    omega

/-- A worker that has been started is in a call when the deadline passes; two others have not been
started. -/
def late : List (Event 3) := [.start 0, .select 0, .send 0 ⟨3, by decide⟩, .deadline]

theorem loadTest_ends_late : (late.foldl next {}).expired = true ∧
    ∀ post w', Run Step (late.foldl next {}) post w' →
      (∀ x ∈ post, Progress x.before x.event) → post.length ≤ 34 := by
  have hrun : Test (history {} late) (late.foldl next {}) := run_history (by decide)
  exact ⟨rfl, (loadTest_ends hrun).2 rfl⟩

end SampleGrpc.LoadTest
