import Mathlib.Data.List.Nodup

/-!
# Stores of named contents

Names point to contents, several names may point to one content, and only contents can be erased:
with a content, all its names go. Sweeping such a store by name, one stale name after the other,
removes more than the stale names.

* `sweep_entries` — what is left of a store after a sweep.
* `sweep_keeps_iff` — a sweep keeps the other names exactly when none shares its content with a
  stale one.
-/

namespace SampleGrpc

structure NamedStore (τ δ : Type) where
  entries : List (τ × δ)
  nodup : (entries.map Prod.fst).Nodup

namespace NamedStore

variable {τ δ : Type} [DecidableEq τ] [DecidableEq δ]

/-- The content a name points to. -/
def resolve (s : NamedStore τ δ) (name : τ) : Option δ :=
  (s.entries.find? fun p => p.1 = name).map Prod.snd

/-- Erase a content, with all its names. -/
def erase (s : NamedStore τ δ) (d : δ) : NamedStore τ δ where
  entries := s.entries.filter fun p => p.2 ≠ d
  nodup := s.nodup.sublist (List.filter_sublist.map Prod.fst)

/-- One turn of a sweep: erase what a stale name points to. -/
def sweepName (stale : τ → Bool) (s : NamedStore τ δ) (name : τ) : NamedStore τ δ :=
  if stale name then
    match s.resolve name with
    | some d => s.erase d
    | none => s
  else s

/-- Sweep the names that the store has at the start. -/
def sweep (stale : τ → Bool) (s : NamedStore τ δ) : NamedStore τ δ :=
  (s.entries.map Prod.fst).foldl (sweepName stale) s

omit [DecidableEq δ] in
theorem resolve_eq_some_iff {s : NamedStore τ δ} {name : τ} {d : δ} :
    s.resolve name = some d ↔ (name, d) ∈ s.entries := by
  unfold resolve
  rw [Option.map_eq_some_iff]
  refine ⟨fun h => ?_, fun hmem => ?_⟩
  · obtain ⟨p, hp, hd⟩ := h
    have hname : p.1 = name := by simpa using List.find?_some hp
    rw [← hname, ← hd]
    exact List.mem_of_find?_eq_some hp
  · cases hfind : s.entries.find? fun p => p.1 = name with
    | none =>
      rw [List.find?_eq_none] at hfind
      simpa using hfind _ hmem
    | some p =>
      have hname : p.1 = name := by simpa using List.find?_some hfind
      have hp : p = (name, d) :=
        List.inj_on_of_nodup_map s.nodup (List.mem_of_find?_eq_some hfind) hmem hname
      exact ⟨p, rfl, by rw [hp]⟩

/-- The entry shares its content with no stale name among `names`. -/
def Survives (stale : τ → Bool) (s : NamedStore τ δ) (names : List τ) (p : τ × δ) : Prop :=
  ∀ q ∈ s.entries, q.1 ∈ names → stale q.1 = true → q.2 ≠ p.2

/-- What is left after sweeping `swept`, and then one more name. -/
theorem mem_sweepName {stale : τ → Bool} {s s' : NamedStore τ δ} {swept : List τ} {name : τ}
    (h : ∀ p, p ∈ s'.entries ↔ p ∈ s.entries ∧ Survives stale s swept p) (p : τ × δ) :
    p ∈ (sweepName stale s' name).entries ↔
      p ∈ s.entries ∧ Survives stale s (swept ++ [name]) p := by
  have hsplit : Survives stale s (swept ++ [name]) p ↔ Survives stale s swept p ∧
      ∀ q ∈ s.entries, q.1 = name → stale q.1 = true → q.2 ≠ p.2 := by
    simp only [Survives, List.mem_append, List.mem_singleton]
    refine ⟨fun hs => ⟨fun q hq hn => hs q hq (.inl hn), fun q hq hn => hs q hq (.inr hn)⟩,
      fun hs q hq hn => ?_⟩
    exact hn.elim (hs.1 q hq) (hs.2 q hq)
  rw [hsplit, ← and_assoc, ← h p]
  unfold sweepName
  split
  · next hstale =>
    split
    · next d hd =>
      -- The name still points to `d`: erasing `d` is what the new condition asks for.
      have hmem : (name, d) ∈ s.entries := ((h _).mp (resolve_eq_some_iff.mp hd)).1
      simp only [erase, List.mem_filter, ne_eq, decide_not, Bool.not_eq_eq_eq_not, Bool.not_true,
        decide_eq_false_iff_not]
      refine and_congr_right fun _ => ⟨fun hne q hq hn _ hqp => ?_, fun hs hpd => ?_⟩
      · have hq' : q = (name, d) := List.inj_on_of_nodup_map s.nodup hq hmem hn
        exact hne (by rw [← hqp, hq'])
      · exact hs _ hmem rfl hstale hpd.symm
    · next hnone =>
      -- The name is gone: an earlier stale name shared its content, and the condition is old.
      refine ⟨fun hp => ⟨hp, fun q hq hn _ hqp => ?_⟩, And.left⟩
      have hgone : q ∉ s'.entries := by
        intro hq'
        have := resolve_eq_some_iff.mpr (show (name, q.2) ∈ s'.entries by rw [← hn]; exact hq')
        simp [hnone] at this
      refine hgone ((h q).mpr ⟨hq, fun q' hq' hn' hs' heq => ?_⟩)
      exact ((h p).mp hp).2 q' hq' hn' hs' (heq.trans hqp)
  · next hstale =>
    refine ⟨fun hp => ⟨hp, fun q _ hn hs => ?_⟩, And.left⟩
    rw [hn] at hs
    exact absurd hs hstale

theorem mem_foldl_sweepName {stale : τ → Bool} {s s' : NamedStore τ δ} {swept : List τ}
    (names : List τ) (h : ∀ p, p ∈ s'.entries ↔ p ∈ s.entries ∧ Survives stale s swept p)
    (p : τ × δ) : p ∈ (names.foldl (sweepName stale) s').entries ↔
      p ∈ s.entries ∧ Survives stale s (swept ++ names) p := by
  induction names generalizing s' swept with
  | nil => simpa using h p
  | cons name names ih =>
    rw [List.foldl_cons, ih (mem_sweepName h), List.append_assoc, List.singleton_append]

/-- **What a sweep leaves**: the entries that share their content with no stale name. -/
theorem sweep_entries {stale : τ → Bool} {s : NamedStore τ δ} {p : τ × δ} :
    p ∈ (s.sweep stale).entries ↔
      p ∈ s.entries ∧ ∀ q ∈ s.entries, stale q.1 = true → q.2 ≠ p.2 := by
  have hstart (p : τ × δ) : p ∈ s.entries ↔ p ∈ s.entries ∧ Survives stale s [] p := by
    simp [Survives]
  rw [sweep, mem_foldl_sweepName _ hstart, List.nil_append]
  refine and_congr_right fun _ => forall₂_congr fun q hq => ?_
  simp [List.mem_map_of_mem hq]

/-- **When a sweep keeps the names that are not stale.** -/
theorem sweep_keeps_iff (stale : τ → Bool) (s : NamedStore τ δ) :
    (∀ name d, stale name = false → s.resolve name = some d →
      (s.sweep stale).resolve name = some d) ↔
    ∀ p ∈ s.entries, ∀ q ∈ s.entries, stale p.1 = false → stale q.1 = true → q.2 ≠ p.2 := by
  simp only [resolve_eq_some_iff, sweep_entries]
  refine ⟨fun h p hp q hq hkept hstale => (h p.1 p.2 hkept hp).2 q hq hstale,
    fun h name d hkept hmem => ⟨hmem, fun q hq hstale => h _ hmem q hq hkept hstale⟩⟩

end NamedStore

end SampleGrpc
