import Mathlib.Init

/-!
# Recipes of `make`

The lines of a recipe run in shells of their own, one after the other, until one fails. The status
of a pipeline is the status of its last command.

* `make_step_cons`, `make_test_cons` — the rules for a line that succeeds and for a test.
-/

namespace SampleGrpc

/-- A line of a recipe: what it does to the state, and its status. -/
abbrev RecipeLine (S : Type) : Type := S → S × Nat

namespace RecipeLine

variable {S A : Type}

/-- A line that succeeds. -/
def step (f : S → S) : RecipeLine S := fun s => (f s, 0)

/-- A line that only decides. -/
def test (p : S → Bool) : RecipeLine S := fun s => (s, if p s then 0 else 1)

/-- `producer | consumer`: the status of the producer is lost. -/
def pipe (producer : S → A × Nat) (consumer : A → RecipeLine S) : RecipeLine S :=
  fun s => consumer (producer s).1 s

end RecipeLine

open RecipeLine

variable {S A : Type}

/-- The lines of a recipe, up to the first that fails. -/
def make : List (RecipeLine S) → RecipeLine S
  | [], s => (s, 0)
  | l :: ls, s => if (l s).2 = 0 then make ls (l s).1 else l s

@[simp] theorem make_nil (s : S) : make [] s = (s, 0) := rfl

@[simp] theorem make_step_cons (f : S → S) (ls : List (RecipeLine S)) (s : S) :
    make (step f :: ls) s = make ls (f s) := rfl

@[simp] theorem make_pipe_step_cons (producer : S → A × Nat) (f : A → S → S)
    (ls : List (RecipeLine S)) (s : S) :
    make (pipe producer (fun a => step (f a)) :: ls) s = make ls (f (producer s).1 s) := rfl

/-- Behind a test the recipe succeeds if the test does and the rest does. -/
theorem make_test_cons {p : S → Bool} {ls : List (RecipeLine S)} {s : S} :
    (make (test p :: ls) s).2 = 0 ↔ p s = true ∧ (make ls s).2 = 0 := by
  cases hp : p s with
  | true => simp [make, test, hp]
  | false => simp [make, test, hp]

end SampleGrpc
