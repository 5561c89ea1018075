import Mathlib.Algebra.BigOperators.Pi
import Mathlib.Algebra.Order.BigOperators.Group.Finset
import Mathlib.Data.Multiset.AddSub
import SampleGrpc.Interaction.Ledger

/-!
# The workers of the load test

`cmd/loadtest/main.go`, from the first `go` statement to the return of `wg.Wait`: the main
goroutine starts the workers one after the other, each worker calls `Echo` until the deadline has
passed, adds to the two atomic counters, keeps its latencies to itself, and appends them to the
shared slice under `latMu`. The goroutines interleave in any way; the append reads the shared slice
and writes it back in two steps, so that the lock matters.

* `Event`, `Enabled`, `next` — the statements, when they can be executed, and what they do.
* `Sound` — the lock, the pending append and the started workers, as an invariant.
* `latencyLedger`, `callLedger`, `errorLedger`, `liveLedger` — what is counted, as ledgers.
* `merged_of_waited`, `calls_of_waited`, `errors_of_waited` — the accounts after `wg.Wait`.
-/

namespace SampleGrpc.LoadTest

/-! ## Goroutines -/

def messages : List String := ["hello", "world", "foo", "bar", "baz", "ping", "test", "echo"]

/-- The statement that a worker executes next. -/
inductive Pc where
  | idle | select | send | call | count | record | lock | read | write | unlock | finish | returned
  deriving DecidableEq, Repr

/-- The variables of a worker; `appended` is the value of `append(latencies, local...)` before it
is assigned. -/
structure Worker where
  pc : Pc := .idle
  locals : List ℤ := []
  msg : String := ""
  reqErr : Option String := none
  ns : ℤ := 0
  appended : List ℤ := []

/-- The shared variables and the workers; `expired` says that `ctx.Done()` is closed, `i` how many
workers have been started, `waited` that `wg.Wait` has returned. -/
structure World (n : ℕ) where
  i : ℕ := 0
  wg : ℤ := 0
  expired : Bool := false
  totalReqs : ℤ := 0
  errCount : ℤ := 0
  latencies : List ℤ := []
  latMu : Option (Fin n) := none
  workers : Fin n → Worker := fun _ => {}
  waited : Bool := false

inductive Event (n : ℕ) where
  | start (k : Fin n)
  | deadline
  | select (k : Fin n)
  | send (k : Fin n) (m : Fin messages.length)
  | echo (k : Fin n) (ns : ℤ) (reqErr : Option String)
  | count (k : Fin n)
  | record (k : Fin n)
  | lock (k : Fin n)
  | read (k : Fin n)
  | write (k : Fin n)
  | unlock (k : Fin n)
  | finish (k : Fin n)
  | wait

variable {n : ℕ}

/-- When an event can happen. A second `Lock` blocks, and so does `Wait` while the counter is not
zero. -/
def Enabled (w : World n) : Event n → Prop
  | .start k => k = w.i
  | .deadline => True
  | .select k => (w.workers k).pc = .select
  | .send k _ => (w.workers k).pc = .send
  | .echo k _ _ => (w.workers k).pc = .call
  | .count k => (w.workers k).pc = .count
  | .record k => (w.workers k).pc = .record
  | .lock k => (w.workers k).pc = .lock ∧ w.latMu = none
  | .read k => (w.workers k).pc = .read
  | .write k => (w.workers k).pc = .write
  | .unlock k => (w.workers k).pc = .unlock
  | .finish k => (w.workers k).pc = .finish
  | .wait => w.i = n ∧ w.wg = 0

instance (w : World n) (e : Event n) : Decidable (Enabled w e) := by
  cases e <;> unfold Enabled <;> infer_instance

/-- Worker `k` with its variables set to `v`. -/
def World.put (w : World n) (k : Fin n) (v : Worker) : World n :=
  { w with workers := Function.update w.workers k v }

def next (w : World n) : Event n → World n
  | .start k =>
    { w.put k { w.workers k with pc := .select, locals := [] } with i := w.i + 1, wg := w.wg + 1 }
  | .deadline => { w with expired := true }
  | .select k => w.put k { w.workers k with pc := if w.expired then .lock else .send }
  | .send k m => w.put k { w.workers k with pc := .call, msg := messages[m] }
  | .echo k ns reqErr => w.put k { w.workers k with pc := .count, ns := ns, reqErr := reqErr }
  | .count k =>
    { w.put k { w.workers k with pc := .record } with totalReqs := w.totalReqs + 1 }
  | .record k =>
    if (w.workers k).reqErr.isSome then
      { w.put k { w.workers k with pc := .select } with errCount := w.errCount + 1 }
    else
      w.put k { w.workers k with
        pc := .select, locals := (w.workers k).locals ++ [(w.workers k).ns] }
  | .lock k => { w.put k { w.workers k with pc := .read } with latMu := some k }
  | .read k =>
    w.put k { w.workers k with pc := .write, appended := w.latencies ++ (w.workers k).locals }
  | .write k =>
    { w.put k { w.workers k with pc := .unlock } with latencies := (w.workers k).appended }
  | .unlock k => { w.put k { w.workers k with pc := .finish } with latMu := none }
  | .finish k => { w.put k { w.workers k with pc := .returned } with wg := w.wg - 1 }
  | .wait => { w with waited := true }

theorem next_record_failed {w : World n} {k : Fin n} (h : (w.workers k).reqErr.isSome) :
    next w (.record k) =
      { w.put k { w.workers k with pc := .select } with errCount := w.errCount + 1 } := if_pos h

theorem next_record_ok {w : World n} {k : Fin n} (h : (w.workers k).reqErr = none) :
    next w (.record k) = w.put k { w.workers k with
      pc := .select, locals := (w.workers k).locals ++ [(w.workers k).ns] } := if_neg (by simp [h])

def Step (w : World n) (e : Event n) (w' : World n) : Prop := Enabled w e ∧ w' = next w e

/-- The goroutines from the start of `main` to a state of the world. -/
abbrev Test (hist : List (Entry (World n) (Event n))) (w : World n) : Prop := Run Step {} hist w

/-- Whether a schedule can be executed statement by statement. -/
def allowed (w : World n) : List (Event n) → Bool
  | [] => true
  | e :: sched => decide (Enabled w e) && allowed (next w e) sched

def history (w : World n) : List (Event n) → List (Entry (World n) (Event n))
  | [] => []
  | e :: sched => ⟨w, e, next w e⟩ :: history (next w e) sched

theorem run_history {w : World n} {sched : List (Event n)} (h : allowed w sched = true) :
    Run Step w (history w sched) (sched.foldl next w) := by
  induction sched generalizing w with
  | nil => exact .nil
  | cons e sched ih =>
    obtain ⟨he, hrest⟩ : decide (Enabled w e) = true ∧ allowed (next w e) sched = true := by
      simpa [allowed] using h
    exact (ih hrest).cons ⟨of_decide_eq_true he, rfl⟩

/-! ## The lock -/

/-- The worker is between `latMu.Lock()` and `latMu.Unlock()`. -/
def Pc.Critical (pc : Pc) : Prop := pc = .read ∨ pc = .write ∨ pc = .unlock

/-- Whoever is between `Lock` and `Unlock` holds the lock, an append that is under way starts from
the shared slice as it is, and the started workers are those below `i`. -/
structure Sound (w : World n) : Prop where
  holds : ∀ k, (w.workers k).pc.Critical → w.latMu = some k
  appended : ∀ k, (w.workers k).pc = .write →
    (w.workers k).appended = w.latencies ++ (w.workers k).locals
  started : ∀ k : Fin n, k < w.i ↔ (w.workers k).pc ≠ .idle

theorem sound_init : Sound ({} : World n) where
  holds k hk := by simp [Pc.Critical] at hk
  appended k hk := by simp at hk
  started k := by simp

variable {w w' : World n} {k : Fin n} {v : Worker} {e : Event n}

/-- Two workers are never between `Lock` and `Unlock` at once. -/
theorem Sound.exclusive (h : Sound w) {k k' : Fin n} (hk : (w.workers k).pc.Critical)
    (hk' : (w.workers k').pc.Critical) : k = k' :=
  Option.some.inj ((h.holds k hk).symm.trans (h.holds k' hk'))

/-- A move of worker `k` that leaves the shared slice, and the lock of the others, alone. -/
theorem Sound.put (h : Sound w) (hworkers : w'.workers = Function.update w.workers k v)
    (hlat : w'.latencies = w.latencies) (hi : w'.i = w.i)
    (hmu : ∀ j, j ≠ k → w.latMu = some j → w'.latMu = some j)
    (hcrit : v.pc.Critical → w'.latMu = some k)
    (happ : v.pc = .write → v.appended = w.latencies ++ v.locals)
    (hpc : v.pc ≠ .idle ↔ (w.workers k).pc ≠ .idle) : Sound w' where
  holds j hj := by
    by_cases hjk : j = k
    · subst hjk
      exact hcrit (by simpa [hworkers] using hj)
    · exact hmu j hjk (h.holds j (by simpa [hworkers, hjk] using hj))
  appended j hj := by
    by_cases hjk : j = k
    · subst hjk
      simpa [hworkers, hlat] using happ (by simpa [hworkers] using hj)
    · simpa [hworkers, hjk, hlat] using h.appended j (by simpa [hworkers, hjk] using hj)
  started j := by
    by_cases hjk : j = k
    · subst hjk
      simpa [hworkers, hi, hpc] using h.started j
    · simpa [hworkers, hi, hjk] using h.started j

/-- The slice is written by the only worker between `Lock` and `Unlock`. -/
theorem Sound.write (h : Sound w) (hk : (w.workers k).pc = .write) :
    Sound (next w (.write k)) where
  holds j hj := by
    by_cases hjk : j = k
    · subst hjk
      exact h.holds j (by simp [Pc.Critical, hk])
    · exact h.holds j (by simpa [next, World.put, hjk] using hj)
  appended j hj := by
    by_cases hjk : j = k
    · subst hjk
      simp [next, World.put] at hj
    · have hw : (w.workers j).pc = .write := by simpa [next, World.put, hjk] using hj
      exact absurd (h.exclusive (by simp [Pc.Critical, hw]) (by simp [Pc.Critical, hk])) hjk
  started j := by
    by_cases hjk : j = k
    · subst hjk
      simpa [next, World.put, hk] using h.started j
    · simpa [next, World.put, hjk] using h.started j

theorem Sound.start (h : Sound w) (hk : (k : ℕ) = w.i) : Sound (next w (.start k)) where
  holds j hj := by
    by_cases hjk : j = k
    · subst hjk
      simp [next, World.put, Pc.Critical] at hj
    · exact h.holds j (by simpa [next, World.put, hjk] using hj)
  appended j hj := by
    by_cases hjk : j = k
    · subst hjk
      simp [next, World.put] at hj
    · simpa [next, World.put, hjk] using h.appended j (by simpa [next, World.put, hjk] using hj)
  started j := by
    by_cases hjk : j = k
    · subst hjk
      simp [next, World.put, hk]
    · have hne : (j : ℕ) ≠ w.i := by
        rw [← hk]
        exact fun heq => hjk (Fin.ext heq)
      have hlt : (j : ℕ) < w.i + 1 ↔ (j : ℕ) < w.i := by omega
      simpa [next, World.put, hjk, hlt] using h.started j

theorem Sound.next (h : Sound w) (he : Enabled w e) : Sound (next w e) := by
  cases e with
  | start k => exact h.start he
  | write k => exact h.write he
  | deadline => exact ⟨h.holds, h.appended, h.started⟩
  | wait => exact ⟨h.holds, h.appended, h.started⟩
  | select k =>
    have hpc : (w.workers k).pc = .select := he
    refine h.put rfl rfl rfl (fun _ _ hj => hj) ?_ ?_ ?_ <;>
      cases w.expired <;> simp [Pc.Critical, hpc]
  | record k =>
    have hpc : (w.workers k).pc = .record := he
    by_cases hfailed : (w.workers k).reqErr.isSome
    · rw [next_record_failed hfailed]
      exact h.put rfl rfl rfl (fun _ _ hj => hj) (by simp [Pc.Critical]) (by simp) (by simp [hpc])
    · rw [next_record_ok (by simpa using hfailed)]
      exact h.put rfl rfl rfl (fun _ _ hj => hj) (by simp [Pc.Critical]) (by simp) (by simp [hpc])
  | send k | echo k | count k | finish k =>
    exact h.put rfl rfl rfl (fun _ _ hj => hj) (by simp [Pc.Critical]) (by simp)
      (by simp [show (w.workers k).pc = _ from he])
  | lock k =>
    obtain ⟨hpc, hfree⟩ : (w.workers k).pc = .lock ∧ w.latMu = none := he
    exact h.put rfl rfl rfl (by simp [hfree]) (fun _ => rfl) (by simp) (by simp [hpc])
  | read k =>
    have hpc : (w.workers k).pc = .read := he
    exact h.put rfl rfl rfl (fun _ _ hj => hj) (fun _ => h.holds k (by simp [Pc.Critical, hpc]))
      (fun _ => rfl) (by simp [hpc])
  | unlock k =>
    have hpc : (w.workers k).pc = .unlock := he
    have hmine : w.latMu = some k := h.holds k (by simp [Pc.Critical, hpc])
    refine h.put rfl rfl rfl (fun j hj hmu => ?_) (by simp [Pc.Critical]) (by simp) (by simp [hpc])
    exact absurd (Option.some.inj (hmu.symm.trans hmine)) hj

variable {hist : List (Entry (World n) (Event n))}

theorem sound_of_test (h : Test hist w) : Sound w :=
  h.invariant (fun _ w => Sound w) sound_init fun _ _ _ _ hw hs => by
    obtain ⟨he, rfl⟩ := hs
    exact hw.next he

/-! ## The accounts -/

/-- The latency of a call that succeeded. -/
def Event.latency : Event n → Option ℤ
  | .echo _ ns none => some ns
  | _ => none

/-- Whether the event is a call that returned. -/
def Event.isCall : Event n → Bool
  | .echo _ _ _ => true
  | _ => false

/-- Whether the event is a call that returned with an error. -/
def Event.isFailure : Event n → Bool
  | .echo _ _ (some _) => true
  | _ => false

/-- The latencies of exactly the calls that succeeded, in the order in which they returned. -/
def succeeded (hist : List (Entry (World n) (Event n))) : List ℤ :=
  hist.filterMap fun x => x.event.latency

/-- What a worker knows and has not merged yet. -/
def Worker.unmerged (v : Worker) : Multiset ℤ :=
  match v.pc with
  | .idle | .unlock | .finish | .returned => 0
  | .count | .record => if v.reqErr.isSome then v.locals else v.locals + {v.ns}
  | _ => v.locals

def Worker.uncounted (v : Worker) : ℤ := if v.pc = .count then 1 else 0

def Worker.unrecorded (v : Worker) : ℤ :=
  if (v.pc = .count ∨ v.pc = .record) ∧ v.reqErr.isSome then 1 else 0

def Worker.live (v : Worker) : ℤ := if v.pc = .idle ∨ v.pc = .returned then 0 else 1

/-- Latencies, calls, failed calls, and the count of the wait group against the running workers. -/
abbrev Amounts : Type := Multiset ℤ × ℤ × ℤ × ℤ

def Worker.share (v : Worker) : Amounts := (v.unmerged, v.uncounted, v.unrecorded, v.live)

def Event.worth (e : Event n) : Amounts :=
  (e.latency.elim 0 fun ns => {ns}, if e.isCall then 1 else 0, if e.isFailure then 1 else 0, 0)

/-- What the program counts: in common what it has counted, with each worker what it has not. -/
def ledger (n : ℕ) : Ledger (Fin n) (World n) (Event n) Amounts where
  common w := (w.latencies, w.totalReqs, w.errCount, -w.wg)
  share w k := (w.workers k).share
  worth := Event.worth

/-- A move of worker `k`. -/
theorem held_of_put (hworkers : w'.workers = Function.update w.workers k v)
    (own : (ledger n).common w' + v.share = (ledger n).common w + (w.workers k).share + e.worth) :
    (ledger n).held w' = (ledger n).held w + e.worth :=
  Ledger.Balanced.held (L := ledger n) (i := k)
    { others := fun j hj => by
        show (w'.workers j).share = (w.workers j).share
        rw [hworkers, Function.update_of_ne hj]
      own := by
        show _ + (w'.workers k).share = _
        rw [hworkers, Function.update_self]
        exact own }

theorem Sound.idle_of_next (h : Sound w) (hk : (k : ℕ) = w.i) : (w.workers k).pc = .idle := by
  by_contra hidle
  have hlt := (h.started k).mpr hidle
  omega

attribute [local simp] ledger Worker.share Worker.unmerged Worker.uncounted Worker.unrecorded
  Worker.live Event.worth Event.latency Event.isCall Event.isFailure World.put

/-- Every statement of a worker moves an amount into the common part or keeps it, and only a call
that returns adds one. -/
theorem held_next (h : Sound w) (he : Enabled w e) :
    (ledger n).held (next w e) = (ledger n).held w + e.worth := by
  cases e with
  | deadline | wait => exact Ledger.held_of_eq rfl rfl rfl
  | start k =>
    refine held_of_put rfl ?_
    simp [h.idle_of_next he, next]
  | select k =>
    have hpc : (w.workers k).pc = .select := he
    refine held_of_put rfl ?_
    cases hexp : w.expired <;> simp [hpc, next, hexp]
  | echo k ns reqErr =>
    have hpc : (w.workers k).pc = .call := he
    refine held_of_put rfl ?_
    cases reqErr <;> simp [hpc, next, - Multiset.coe_add, add_assoc]
  | record k =>
    have hpc : (w.workers k).pc = .record := he
    cases hreq : (w.workers k).reqErr with
    | some err =>
      rw [next_record_failed (by simp [hreq])]
      refine held_of_put rfl ?_
      simp [hpc, hreq]
    | none =>
      rw [next_record_ok hreq]
      refine held_of_put rfl ?_
      simp [hpc, hreq, ← Multiset.coe_add]
  | lock k =>
    refine held_of_put rfl ?_
    simp [he.1, next]
  | write k =>
    have hpc : (w.workers k).pc = .write := he
    refine held_of_put rfl ?_
    simp [hpc, next, h.appended k hpc]
  | finish k =>
    have hpc : (w.workers k).pc = .finish := he
    refine held_of_put rfl ?_
    simp [hpc, next]
    omega
  | send k | count k | read k | unlock k =>
    refine held_of_put rfl ?_
    simp [show (w.workers k).pc = _ from he, next]

theorem held_of_test (h : Test hist w) : (ledger n).held w = (ledger n).earned hist :=
  Ledger.held_eq_earned (by simp [Ledger.held])
    (fun _ w e _ hrun hs => by
      obtain ⟨he, rfl⟩ := hs
      exact held_next (sound_of_test hrun) he) h

/-- What a history was worth. -/
theorem earned_eq (hist : List (Entry (World n) (Event n))) :
    (ledger n).earned hist = (↑(succeeded hist), ↑(hist.countP fun x => x.event.isCall),
      ↑(hist.countP fun x => x.event.isFailure), 0) := by
  induction hist with
  | nil => rfl
  | cons x hist ih =>
    have hcons : (ledger n).earned (x :: hist) = x.event.worth + (ledger n).earned hist := rfl
    rw [hcons, ih]
    obtain ⟨c, e, c'⟩ := x
    cases e with
    | echo k ns reqErr => cases reqErr <;> simp [succeeded, add_comm]
    | _ => simp [succeeded]

/-! ## After the wait group -/

/-- `wg.Wait` returns only when every worker has returned. -/
theorem returned_of_zero (h : Test hist w) (hi : w.i = n) (hwg : w.wg = 0) (k : Fin n) :
    (w.workers k).pc = .returned := by
  have hheld : ((ledger n).held w).2.2.2 = 0 := by rw [held_of_test h, earned_eq]
  have hsum : ∑ j, (w.workers j).live = 0 := by
    simpa only [Ledger.held, ledger, Worker.share, Prod.snd_add, Prod.snd_sum, hwg, neg_zero,
      zero_add] using hheld
  have hnonneg : ∀ j ∈ Finset.univ, 0 ≤ (w.workers j).live := fun j _ => by
    unfold Worker.live
    split <;> decide
  have hlive : (w.workers k).live = 0 :=
    (Finset.sum_eq_zero_iff_of_nonneg hnonneg).mp hsum k (Finset.mem_univ k)
  have hstarted : (w.workers k).pc ≠ .idle :=
    ((sound_of_test h).started k).mp (by rw [hi]; exact k.isLt)
  by_contra hreturned
  simp [hstarted, hreturned] at hlive

theorem returned_next (h : Sound w) (hret : ∀ k, (w.workers k).pc = .returned)
    (he : Enabled w e) (k : Fin n) : ((next w e).workers k).pc = .returned := by
  have habsurd : ∀ {j : Fin n} {pc : Pc}, (w.workers j).pc = pc → pc ≠ .returned → False :=
    fun hpc hne => hne (hpc.symm.trans (hret _))
  cases e with
  | deadline | wait => exact hret k
  | start j => exact (habsurd (h.idle_of_next he) (by simp)).elim
  | lock j => exact (habsurd he.1 (by simp)).elim
  | _ j => exact (habsurd he (by simp)).elim

theorem returned_of_waited (h : Test hist w) (hw : w.waited = true) :
    ∀ k, (w.workers k).pc = .returned := by
  induction h with
  | nil => simp at hw
  | @snoc hist w w' e h hs ih =>
    obtain ⟨he, rfl⟩ := hs
    by_cases hwait : e = .wait
    · subst hwait
      exact fun k => returned_of_zero h he.1 he.2 k
    · refine returned_next (sound_of_test h) (ih ?_) he
      cases e with
      | wait => exact absurd rfl hwait
      | record k =>
        by_cases hfailed : (w.workers k).reqErr.isSome
        · simpa [next_record_failed hfailed] using hw
        · simpa [next_record_ok (by simpa using hfailed)] using hw
      | _ => exact hw

/-- **The accounts after `wg.Wait`.** All that was counted is in common. -/
theorem counted_of_waited (h : Test hist w) (hw : w.waited = true) :
    ((w.latencies : Multiset ℤ), w.totalReqs, w.errCount, -w.wg) =
      (↑(succeeded hist), ↑(hist.countP fun x => x.event.isCall),
        ↑(hist.countP fun x => x.event.isFailure), 0) := by
  have hshare : ∀ k, (w.workers k).share = 0 := fun k => by
    simp [returned_of_waited h hw k]
  have hheld := (held_of_test h).trans (earned_eq hist)
  have hcommon : (ledger n).held w = (ledger n).common w := by
    show _ + ∑ k, (w.workers k).share = _
    rw [Finset.sum_eq_zero fun k _ => hshare k, add_zero]
  exact hcommon.symm.trans hheld

end SampleGrpc.LoadTest
