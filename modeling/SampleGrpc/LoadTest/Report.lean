import SampleGrpc.LoadTest.Workers
import SampleGrpc.Order.Quantile

/-!
# The report of the load test

What `main` prints after `wg.Wait`: the counters, and the percentiles of the merged latencies. The
merged slice holds the latencies of exactly the successful calls, and every printed percentile is a
quantile of it.

* `percentiles`, `report` — the numbers that are printed.
* `percentiles_describe` — the percentiles of any sample that is not empty.
* `report_faithful` — the report of a test, for every interleaving of the workers.
-/

namespace SampleGrpc.LoadTest

/-! ## What is printed -/

/-- The latency block. -/
structure Latency where
  p50 : ℤ
  p90 : ℤ
  p95 : ℤ
  p99 : ℤ
  max : ℤ
  deriving DecidableEq, Repr

/-- `none` where an index is out of range, which is a panic. -/
def percentiles (latencies : List ℤ) : Option Latency := do
  let sorted := latencies.mergeSort (· ≤ ·)
  let n := sorted.length
  let p50 ← sorted[n * 50 / 100]?
  let p90 ← sorted[n * 90 / 100]?
  let p95 ← sorted[n * 95 / 100]?
  let p99 ← sorted[n * 99 / 100]?
  let max ← sorted[n - 1]?
  pure { p50, p90, p95, p99, max }

structure Report where
  total : ℤ
  successful : ℤ
  errors : ℤ
  latency : Option Latency
  deriving DecidableEq, Repr

variable {n : ℕ}

/-- The report, from the variables as they are after `wg.Wait`; `none` is a panic. -/
def report (w : World n) : Option Report :=
  let total := w.totalReqs
  let errors := w.errCount
  let successful := total - errors
  if 0 < w.latencies.length then
    (percentiles w.latencies).map fun latency =>
      { total, successful, errors, latency := some latency }
  else
    some { total, successful, errors, latency := none }

/-! ## The percentiles -/

/-- What the latency block says about a sample. -/
structure Latency.Describes (l : Latency) (sample : List ℤ) : Prop where
  p50 : IsQuantile 50 100 sample l.p50
  p90 : IsQuantile 90 100 sample l.p90
  p95 : IsQuantile 95 100 sample l.p95
  p99 : IsQuantile 99 100 sample l.p99
  max_mem : l.max ∈ sample
  le_max : ∀ ns ∈ sample, ns ≤ l.max
  p50_le_p90 : l.p50 ≤ l.p90
  p90_le_p95 : l.p90 ≤ l.p95
  p95_le_p99 : l.p95 ≤ l.p99
  p99_le_max : l.p99 ≤ l.max

theorem percentiles_describe {latencies : List ℤ} (hne : latencies ≠ []) :
    ∃ l, percentiles latencies = some l ∧ l.Describes latencies := by
  have hsorted : (latencies.mergeSort (· ≤ ·)).Pairwise (· ≤ ·) := List.pairwise_mergeSort' _ _
  have hperm : (latencies.mergeSort (· ≤ ·)).Perm latencies := List.mergeSort_perm _ _
  have hpos : 0 < (latencies.mergeSort (· ≤ ·)).length := by
    rw [hperm.length_eq]
    exact List.length_pos_of_ne_nil hne
  unfold percentiles
  generalize latencies.mergeSort (· ≤ ·) = sorted at hsorted hperm hpos
  have hindex : ∀ p < 100, sorted.length * p / 100 < sorted.length :=
    fun p hp => quantile_index_lt hp hpos
  have hlast : sorted.length - 1 < sorted.length := by omega
  have hquantile : ∀ p (_ : p < 100) (_ : sorted.length * p / 100 < sorted.length),
      IsQuantile p 100 latencies sorted[sorted.length * p / 100] :=
    fun p hp hi => (isQuantile_getElem hsorted hp hi).of_perm hperm
  have hmono : ∀ p p' (_ : p ≤ p') (_ : sorted.length * p / 100 < sorted.length)
      (_ : sorted.length * p' / 100 < sorted.length),
      sorted[sorted.length * p / 100] ≤ sorted[sorted.length * p' / 100] :=
    fun p p' h _ hi' => getElem_le_of_le hsorted (quantile_index_mono h _) hi'
  have h50 := hindex 50 (by simp)
  have h90 := hindex 90 (by simp)
  have h95 := hindex 95 (by simp)
  have h99 := hindex 99 (by simp)
  refine ⟨⟨sorted[sorted.length * 50 / 100], sorted[sorted.length * 90 / 100],
    sorted[sorted.length * 95 / 100], sorted[sorted.length * 99 / 100],
    sorted[sorted.length - 1]⟩, ?_, ?_⟩
  · simp [List.getElem?_eq_getElem h50, List.getElem?_eq_getElem h90,
      List.getElem?_eq_getElem h95, List.getElem?_eq_getElem h99, List.getElem?_eq_getElem hlast]
  · exact
      { p50 := hquantile 50 (by simp) h50
        p90 := hquantile 90 (by simp) h90
        p95 := hquantile 95 (by simp) h95
        p99 := hquantile 99 (by simp) h99
        max_mem := hperm.mem_iff.mp (List.getElem_mem _)
        le_max := fun ns hns => by
          obtain ⟨i, hi, rfl⟩ := List.getElem_of_mem (hperm.mem_iff.mpr hns)
          exact getElem_le_of_le hsorted (by omega) hlast
        p50_le_p90 := hmono 50 90 (by simp) h50 h90
        p90_le_p95 := hmono 90 95 (by simp) h90 h95
        p95_le_p99 := hmono 95 99 (by simp) h95 h99
        p99_le_max := getElem_le_of_le hsorted (by omega) hlast }

/-! ## The report of a test -/

theorem length_succeeded (hist : List (Entry (World n) (Event n))) :
    (succeeded hist).length + hist.countP (fun x => x.event.isFailure) =
      hist.countP fun x => x.event.isCall := by
  induction hist with
  | nil => rfl
  | cons x hist ih =>
    obtain ⟨c, e, c'⟩ := x
    cases e with
    | echo k ns reqErr =>
      cases reqErr <;>
        simp [succeeded, Event.latency, Event.isFailure, Event.isCall] at ih ⊢ <;> omega
    | _ => simpa [succeeded, Event.latency, Event.isFailure, Event.isCall] using ih

variable {hist : List (Entry (World n) (Event n))} {w : World n}

theorem latencies_perm (h : Test hist w) (hw : w.waited = true) :
    w.latencies.Perm (succeeded hist) :=
  Multiset.coe_eq_coe.mp (congrArg Prod.fst (counted_of_waited h hw))

theorem length_latencies (h : Test hist w) (hw : w.waited = true) :
    (w.latencies.length : ℤ) = w.totalReqs - w.errCount := by
  have hcounted := counted_of_waited h hw
  simp only [Prod.mk.injEq] at hcounted
  obtain ⟨-, hcalls, herrors, -⟩ := hcounted
  have hlength := length_succeeded hist
  rw [(latencies_perm h hw).length_eq, hcalls, herrors]
  omega

/-- **The report is faithful.** After `wg.Wait` the merged slice holds the latencies of exactly the
successful calls, the printed counts add up, no percentile index is out of range, and the printed
percentiles are quantiles of the sample in increasing order. -/
theorem report_faithful {n : ℕ} {hist : List (Entry (World n) (Event n))} {w : World n}
    (h : Test hist w) (hw : w.waited = true) :
    w.latencies.Perm (succeeded hist) ∧
      (w.latencies.length : ℤ) = w.totalReqs - w.errCount ∧
      (w.latencies ≠ [] → ∀ p ∈ [50, 90, 95, 99],
        w.latencies.length * p / 100 < w.latencies.length) ∧
      ∃ r, report w = some r ∧ r.successful = w.latencies.length ∧
        (r.latency = none ↔ w.latencies = []) ∧
        ∀ l, r.latency = some l → l.Describes w.latencies := by
  refine ⟨latencies_perm h hw, length_latencies h hw, fun hne p hp => ?_, ?_⟩
  · refine quantile_index_lt ?_ (List.length_pos_of_ne_nil hne)
    simp at hp
    omega
  · by_cases hne : w.latencies = []
    · refine ⟨_, by rw [report, if_neg (by simp [hne])], ?_, by simp [hne], by simp⟩
      rw [length_latencies h hw]
    · obtain ⟨l, hl, hdescribes⟩ := percentiles_describe hne
      refine ⟨_, by rw [report, if_pos (List.length_pos_of_ne_nil hne), hl]; rfl, ?_, by simp [hne],
        by simpa using hdescribes⟩
      rw [length_latencies h hw]

/-- Two workers: one has a call that succeeds and one that fails, the other is in its only call when
the deadline passes, and both append at the end. -/
def sample : List (Event 2) :=
  [.start 0, .select 0, .send 0 ⟨5, by decide⟩, .start 1, .echo 0 7 none, .select 1,
    .send 1 ⟨0, by decide⟩, .count 0, .record 0, .select 0, .send 0 ⟨1, by decide⟩,
    .echo 0 3 (some "unavailable"), .count 0, .deadline, .echo 1 5 none, .count 1, .record 1,
    .select 1, .lock 1, .record 0, .select 0, .read 1, .write 1, .unlock 1, .lock 0, .read 0,
    .finish 1, .write 0, .unlock 0, .finish 0, .wait]

theorem report_faithful_sample :
    let w := sample.foldl next {}
    Test (history {} sample) w ∧ w.latencies = [5, 7] ∧ w.totalReqs = 3 ∧ w.errCount = 1 ∧
      w.latencies.Perm (succeeded (history {} sample)) ∧
      ∃ r, report w = some r ∧ r.successful = 2 ∧
        ∀ l, r.latency = some l → l.Describes [5, 7] := by
  have hrun : Test (history {} sample) (sample.foldl next {}) := run_history (by decide)
  have hlat : (sample.foldl next {}).latencies = [5, 7] := by decide
  obtain ⟨hperm, -, -, r, hr, hsucc, -, hdescribes⟩ := report_faithful hrun (by decide)
  rw [hlat] at hsucc hdescribes
  exact ⟨hrun, hlat, by decide, by decide, hperm, r, hr, hsucc, hdescribes⟩

end SampleGrpc.LoadTest
