import Mathlib.Logic.Function.Basic

/-!
# Directories of accounts

What a service that keeps accounts is for, whatever it stores them in. A directory gives each key
at most one account; an account has an identifier of its own, and a name unless it has none. Both
are unique, and the structure says so: a change that would break this leads to no directory.

* `Directory.Writes` — one account is opened or changed.
* `Directory.Kept` — no account is lost, and each has changed along a relation.
* `Directory.Lists` — a list of all accounts, each once.
-/

namespace SampleGrpc

/-- Who it is, the name it goes by, and the rest. -/
structure Account (ι ν P : Type) where
  id : ι
  name : Option ν
  profile : P

@[ext]
structure Directory (κ ι ν P : Type) where
  account : κ → Option (Account ι ν P)
  id_unique : ∀ {k k' a a'}, account k = some a → account k' = some a' → a.id = a'.id → k = k'
  name_unique : ∀ {k k' a a' n}, account k = some a → account k' = some a' →
    a.name = some n → a'.name = some n → k = k'

namespace Directory

variable {κ ι ν P : Type} {d d' d'' : Directory κ ι ν P} {k k' : κ} {a a' : Account ι ν P}

/-- Two accounts with one identifier are one. -/
theorem account_unique (h : d.account k = some a) (h' : d.account k' = some a')
    (hid : a.id = a'.id) :
    k = k' ∧ a = a' := by
  obtain rfl := d.id_unique h h' hid
  exact ⟨rfl, Option.some.inj (h.symm.trans h')⟩

/-- The list has every account once. -/
structure Lists (d : Directory κ ι ν P) (l : List (Account ι ν P)) : Prop where
  mem : ∀ a, a ∈ l ↔ ∃ k, d.account k = some a
  nodup : (l.map Account.id).Nodup

/-! ## Changing one account -/

variable [DecidableEq κ]

/-- `d'` is `d`, but for the account of `k`, which is `a`. -/
def Writes (d : Directory κ ι ν P) (k : κ) (a : Account ι ν P) (d' : Directory κ ι ν P) : Prop :=
  d'.account = Function.update d.account k (some a)

theorem Writes.self (h : d.Writes k a d') : d'.account k = some a := by
  rw [h, Function.update_self]

theorem Writes.of_ne (h : d.Writes k a d') (hne : k' ≠ k) : d'.account k' = d.account k' := by
  rw [h, Function.update_of_ne hne]

/-! ## Directories that only grow -/

/-- No account is lost, and each has changed along `rel`. -/
def Kept (rel : Account ι ν P → Account ι ν P → Prop) (d d' : Directory κ ι ν P) : Prop :=
  ∀ k a, d.account k = some a → ∃ a', d'.account k = some a' ∧ rel a a'

variable {rel : Account ι ν P → Account ι ν P → Prop}

omit [DecidableEq κ] in
theorem Kept.refl (hrel : ∀ a, rel a a) (d : Directory κ ι ν P) : Kept rel d d :=
  fun _ a h => ⟨a, h, hrel a⟩

omit [DecidableEq κ] in
theorem Kept.trans (hrel : ∀ a₁ a₂ a₃, rel a₁ a₂ → rel a₂ a₃ → rel a₁ a₃) (h : Kept rel d d')
    (h' : Kept rel d' d'') : Kept rel d d'' := by
  intro k a ha
  obtain ⟨a', ha', hrel₁⟩ := h k a ha
  obtain ⟨a'', ha'', hrel₂⟩ := h' k a' ha'
  exact ⟨a'', ha'', hrel _ _ _ hrel₁ hrel₂⟩

/-- Changing one account along `rel`, or opening it, keeps all. -/
theorem Writes.kept (hrefl : ∀ a, rel a a) (h : d.Writes k a d')
    (hrel : ∀ a₀, d.account k = some a₀ → rel a₀ a) : Kept rel d d' := by
  intro k' a' ha'
  by_cases hk : k' = k
  · subst hk
    exact ⟨a, h.self, hrel a' ha'⟩
  · exact ⟨a', (h.of_ne hk).trans ha', hrefl a'⟩

end Directory

end SampleGrpc
