import Mathlib.Data.Nat.Notation

/-!
# Shell commands under `set -e`

A shell with simple commands, lists, conditionals, functions and loops, as far as `set -e` tells
them apart. A command that fails ends the shell, unless it is a condition or a part of an `&&` or
`||` list other than the last; a function whose last command fails that way ends with its status,
and the call is then a failing command of the caller.

* `Cmd.run` — the state, and how the command ends.
* `Cmd.run_seq_of_status`, `Cmd.run_call_of_zero`, `Cmd.run_call_of_failure` — one rule per step.
* `Cmd.run_ite_test`, `Cmd.run_and_test`, `Cmd.run_or_test` — the rules for tests.
* `Cmd.run_forIn` — the rule for loops.
-/

namespace SampleGrpc

/-- How a command ends: with a status, by ending the shell, or by the `continue` of a loop. -/
inductive Ending where
  | status (n : ℕ)
  | exit (n : ℕ)
  | nextTurn
  deriving DecidableEq, Repr

/-- The status that the caller of the shell sees. -/
def Ending.code : Ending → ℕ
  | .status n => n
  | .exit n => n
  | .nextTurn => 0

/-- Commands over a state `S`, with loops over words in `W`. -/
inductive Cmd (S W : Type) where
  | simple (f : S → S × ℕ)
  | seq (first second : Cmd S W)
  | and (first second : Cmd S W)
  | or (first second : Cmd S W)
  | ite (cond yes no : Cmd S W)
  | call (body : Cmd S W)
  | exit (n : ℕ)
  | nextTurn
  | forIn (words : List W) (body : W → Cmd S W)

namespace Cmd

variable {S W : Type}

/-- A command that always succeeds. -/
def effect (f : S → S) : Cmd S W := .simple fun s => (f s, 0)

/-- A command that succeeds and changes nothing. -/
def ok : Cmd S W := effect id

/-- A test: status 0 or 1, no effect. -/
def test (p : S → Bool) : Cmd S W := .simple fun s => (s, if p s then 0 else 1)

/-- Commands in a row. -/
def block : List (Cmd S W) → Cmd S W
  | [] => ok
  | [c] => c
  | c :: cs => .seq c (block cs)

/-- What `set -e` makes of a status. -/
def settle (ignored : Bool) (r : S × ℕ) : S × Ending :=
  (r.1, if r.2 = 0 ∨ ignored = true then .status r.2 else .exit r.2)

/-- The turns of a loop; the loop ends with the status of its last turn. -/
def turns (body : W → S → S × Ending) : List W → ℕ → S → S × Ending
  | [], n, s => (s, .status n)
  | w :: ws, _, s =>
    match body w s with
    | (s', .status n) => turns body ws n s'
    | (s', .nextTurn) => turns body ws 0 s'
    | (s', .exit n) => (s', .exit n)

/-- Execution; `ignored` says that the command is in a place where failures are ignored. -/
def run (ignored : Bool) : Cmd S W → S → S × Ending
  | .simple f, s => settle ignored (f s)
  | .seq a b, s =>
    match run ignored a s with
    | (s', .status _) => run ignored b s'
    | r => r
  | .and a b, s =>
    match run true a s with
    | (s', .status 0) => run ignored b s'
    | r => r
  | .or a b, s =>
    match run true a s with
    | (s', .status (_ + 1)) => run ignored b s'
    | r => r
  | .ite c a b, s =>
    match run true c s with
    | (s', .status 0) => run ignored a s'
    | (s', .status (_ + 1)) => run ignored b s'
    | r => r
  | .call body, s =>
    match run ignored body s with
    | (s', .status n) => settle ignored (s', n)
    | r => r
  | .exit n, s => (s, .exit n)
  | .nextTurn, s => (s, .nextTurn)
  | .forIn ws body, s => turns (fun w => run ignored (body w)) ws 0 s

attribute [local simp] run

variable {ignored : Bool} {a b c : Cmd S W} {s s' : S} {n : ℕ} {f : S → S} {p : S → Bool}

@[simp] theorem run_effect : run ignored (effect f : Cmd S W) s = (f s, .status 0) := by
  simp [effect, settle]

@[simp] theorem run_ok : run ignored (ok : Cmd S W) s = (s, .status 0) := run_effect

@[simp] theorem run_nextTurn : run ignored (.nextTurn : Cmd S W) s = (s, .nextTurn) := rfl

/-- In a condition a test only answers. -/
theorem run_test (p : S → Bool) (s : S) :
    run true (test p : Cmd S W) s = (s, .status (if p s then 0 else 1)) := by
  simp [test, settle]

theorem run_seq_of_status (h : run ignored a s = (s', .status n)) :
    run ignored (.seq a b) s = run ignored b s' := by simp [h]

theorem run_seq_of_exit (h : run ignored a s = (s', .exit n)) :
    run ignored (.seq a b) s = (s', .exit n) := by simp [h]

theorem run_seq_of_nextTurn (h : run ignored a s = (s', .nextTurn)) :
    run ignored (.seq a b) s = (s', .nextTurn) := by simp [h]

@[simp] theorem run_seq_effect :
    run ignored (.seq (effect f) b) s = run ignored b (f s) := run_seq_of_status run_effect

@[simp] theorem run_seq_ok : run ignored (.seq ok b) s = run ignored b s :=
  run_seq_of_status run_ok

/-- A test as the condition of a command. -/
@[simp] theorem run_ite_test : run ignored (.ite (test p) a b) s =
    if p s then run ignored a s else run ignored b s := by
  cases hp : p s with
  | true => simp [run_test, hp]
  | false => simp [run_test, hp]

/-- A test that fails before `&&` does not end the shell, but the list fails. -/
@[simp] theorem run_and_test : run ignored (.and (test p) a) s =
    if p s then run ignored a s else (s, .status 1) := by
  cases hp : p s with
  | true => simp [run_test, hp]
  | false => simp [run_test, hp]

@[simp] theorem run_or_test : run ignored (.or (test p) a) s =
    if p s then (s, .status 0) else run ignored a s := by
  cases hp : p s with
  | true => simp [run_test, hp]
  | false => simp [run_test, hp]

theorem run_call_of_zero (h : run ignored a s = (s', .status 0)) :
    run ignored (.call a) s = (s', .status 0) := by simp [h, settle]

/-- A function that ends with a failing status ends the shell of its caller. -/
theorem run_call_of_failure (h : run false a s = (s', .status (n + 1))) :
    run false (.call a) s = (s', .exit (n + 1)) := by simp [h, settle]

theorem run_call_of_exit (h : run ignored a s = (s', .exit n)) :
    run ignored (.call a) s = (s', .exit n) := by simp [h]

theorem run_block_cons {d : Cmd S W} {cs : List (Cmd S W)} :
    run ignored (block (c :: d :: cs)) s = run ignored (.seq c (block (d :: cs))) s := rfl

@[simp] theorem run_block_single : run ignored (block [c]) s = run ignored c s := rfl

/-- A loop whose turns compute `g`, each ending with status 0 or a `continue`. -/
theorem run_forIn {ws : List W} {body : W → Cmd S W} {g : S → W → S}
    (h : ∀ w ∈ ws, ∀ s, run ignored (body w) s = (g s w, .status 0) ∨
      run ignored (body w) s = (g s w, .nextTurn)) (s : S) :
    run ignored (.forIn ws body) s = (ws.foldl g s, .status 0) := by
  show turns (fun w => run ignored (body w)) ws 0 s = _
  induction ws generalizing s with
  | nil => rfl
  | cons w ws ih =>
    have hturn := h w List.mem_cons_self s
    have hrest := ih (fun w' hw' => h w' (List.mem_cons_of_mem w hw')) (g s w)
    rcases hturn with hturn | hturn
    · simp only [turns, hturn, hrest, List.foldl_cons]
    · simp only [turns, hturn, hrest, List.foldl_cons]

end Cmd

end SampleGrpc
