import SampleGrpc.Shell.Grep

/-!
# `grep -o`

The matches of a pattern in a text: the leftmost first, and the next one behind it. `grep` looks for
them line by line; a matcher that does not look beyond the line finds the same ones in the whole
text, which is where they are reasoned about.

* `Matcher.scan` — the matches, from the left.
* `Matcher.grepOnly_eq_scan` — lines or the whole text.
* `Matcher.scan_clear` — a text that no match runs out of can be cut off.
-/

namespace SampleGrpc

/-- What a pattern matches at the start of a text. -/
structure Matcher where
  matchAt : List Char → Option (List Char)
  isPrefix : ∀ {s m}, matchAt s = some m → m <+: s
  ne_nil : ∀ {s m}, matchAt s = some m → m ≠ []

namespace Matcher

/-- The matches in a text, after skipping some characters. -/
def scan (M : Matcher) : ℕ → List Char → List (List Char)
  | _, [] => []
  | skip + 1, _ :: cs => scan M skip cs
  | 0, c :: cs =>
    match M.matchAt (c :: cs) with
    | some m => m :: scan M (m.length - 1) cs
    | none => scan M 0 cs

/-- `grep -o` -/
def grepOnly (M : Matcher) (text : List Char) : List (List Char) :=
  (textLines text).flatMap (M.scan 0)

variable {M : Matcher} {s m pre rest : List Char} {c : Char}

theorem matchAt_nil (M : Matcher) : M.matchAt [] = none := by
  by_contra h
  obtain ⟨m, hm⟩ := Option.ne_none_iff_exists'.mp h
  exact M.ne_nil hm (List.prefix_nil.mp (M.isPrefix hm))

@[simp] theorem scan_nil (skip : ℕ) : M.scan skip [] = [] := by
  cases skip <;> rfl

@[simp] theorem scan_succ (skip : ℕ) (cs : List Char) :
    M.scan (skip + 1) (c :: cs) = M.scan skip cs := rfl

theorem scan_of_some (h : M.matchAt (c :: s) = some m) :
    M.scan 0 (c :: s) = m :: M.scan (m.length - 1) s := by rw [scan, h]

theorem scan_of_none (h : M.matchAt (c :: s) = none) : M.scan 0 (c :: s) = M.scan 0 s := by
  rw [scan, h]

theorem scan_length_append (xs rest : List Char) :
    M.scan xs.length (xs ++ rest) = M.scan 0 rest := by
  induction xs with
  | nil => rfl
  | cons x xs ih => exact ih

/-- A match is reported, and the scan goes on behind it. -/
theorem scan_match (h : M.matchAt (m ++ rest) = some m) :
    M.scan 0 (m ++ rest) = m :: M.scan 0 rest := by
  cases m with
  | nil => exact absurd rfl (M.ne_nil h)
  | cons c m =>
    have hcons : M.matchAt (c :: (m ++ rest)) = some (c :: m) := h
    rw [List.cons_append, scan_of_some hcons, List.length_cons, Nat.add_sub_cancel,
      scan_length_append]

/-! ## Lines -/

def line (s : List Char) : List Char := s.takeWhile (· ≠ '\n')

/-- The matcher that does not look beyond the line. -/
def inLine (M : Matcher) : Matcher where
  matchAt s := M.matchAt (line s)
  isPrefix h := (M.isPrefix h).trans (List.takeWhile_prefix _)
  ne_nil h := M.ne_nil h

theorem line_cons (hc : c ≠ '\n') (s : List Char) : line (c :: s) = c :: line s :=
  List.takeWhile_cons_of_pos (decide_eq_true hc)

theorem line_newline (s : List Char) : line ('\n' :: s) = [] := rfl

theorem textLines_newline (s : List Char) : textLines ('\n' :: s) = [] :: textLines s := rfl

/-- The first line of a text that does not begin with a line end. -/
theorem textLines_cons (hc : c ≠ '\n') (s : List Char) :
    textLines (c :: s) = (c :: line s) :: (textLines s).tail := by
  induction s generalizing c with
  | nil => simp [textLines, hc, line]
  | cons d s ih =>
    rw [textLines, if_neg hc]
    by_cases hd : d = '\n'
    · subst hd
      rfl
    · rw [ih hd, line_cons hd]
      rfl

/-- What a scan over the lines finds, in the middle of a line. -/
theorem scan_inLine (text : List Char) (skip : ℕ) (hskip : skip ≤ (line text).length) :
    M.inLine.scan skip text =
      M.scan skip (line text) ++ (textLines text).tail.flatMap (M.scan 0) := by
  induction text generalizing skip with
  | nil => simp [line, textLines]
  | cons c text ih =>
    by_cases hc : c = '\n'
    · subst hc
      have hzero : skip = 0 := Nat.le_zero.mp hskip
      have hnone : M.inLine.matchAt ('\n' :: text) = none := M.matchAt_nil
      have hrest := ih 0 (Nat.zero_le _)
      subst hzero
      rw [scan_of_none hnone, hrest, line_newline, scan_nil, List.nil_append, textLines_newline,
        List.tail_cons]
      cases text with
      | nil => rfl
      | cons d text =>
        by_cases hd : d = '\n'
        · subst hd
          rfl
        · rw [textLines_cons hd, line_cons hd]
          rfl
    · rw [line_cons hc, List.length_cons] at hskip
      rw [textLines_cons hc, line_cons hc, List.tail_cons]
      cases skip with
      | succ skip =>
        rw [scan_succ, scan_succ]
        exact ih skip (by omega)
      | zero =>
        have hsame : M.inLine.matchAt (c :: text) = M.matchAt (c :: line text) := by
          rw [← line_cons hc]
          rfl
        cases hmatch : M.matchAt (c :: line text) with
        | none =>
          rw [scan_of_none (hsame.trans hmatch), scan_of_none hmatch]
          exact ih 0 (Nat.zero_le _)
        | some m =>
          have hlength : m.length ≤ (line text).length + 1 := (M.isPrefix hmatch).length_le
          rw [scan_of_some (hsame.trans hmatch), scan_of_some hmatch, List.cons_append]
          congr 1
          apply ih
          omega

/-- **Lines or the whole text.** -/
theorem grepOnly_eq_scan (text : List Char) : M.grepOnly text = M.inLine.scan 0 text := by
  rw [scan_inLine text 0 (Nat.zero_le _), grepOnly]
  cases text with
  | nil => rfl
  | cons c text =>
    by_cases hc : c = '\n'
    · subst hc
      rfl
    · rw [textLines_cons hc, line_cons hc]
      rfl

/-! ## Clear texts -/

/-- No match that starts in `pre` runs into the rest. -/
def Clear (M : Matcher) (pre rest : List Char) : Prop :=
  ∀ t m, t ≠ [] → t <:+ pre → M.matchAt (t ++ rest) = some m → m.length ≤ t.length

theorem Clear.tail (h : Clear M (c :: pre) rest) : Clear M pre rest := fun t m hne hsuffix =>
  h t m hne (hsuffix.trans (List.suffix_cons c pre))

/-- **Behind a clear text the scan starts anew**, and what it finds before starts there. -/
theorem scan_clear (h : Clear M pre rest) (skip : ℕ) (hskip : skip ≤ pre.length) :
    ∃ ms, M.scan skip (pre ++ rest) = ms ++ M.scan 0 rest ∧
      ∀ m ∈ ms, ∃ t, t ≠ [] ∧ t <:+ pre ∧ M.matchAt (t ++ rest) = some m := by
  induction pre generalizing skip with
  | nil =>
    have hzero : skip = 0 := Nat.le_zero.mp hskip
    subst hzero
    exact ⟨[], rfl, List.forall_mem_nil _⟩
  | cons c pre ih =>
    have hlater : ∀ {skip}, skip ≤ pre.length → ∃ ms,
        M.scan skip (pre ++ rest) = ms ++ M.scan 0 rest ∧
          ∀ m ∈ ms, ∃ t, t ≠ [] ∧ t <:+ c :: pre ∧ M.matchAt (t ++ rest) = some m := by
      intro skip hskip
      obtain ⟨ms, hms, hstart⟩ := ih h.tail skip hskip
      refine ⟨ms, hms, fun m hm => ?_⟩
      obtain ⟨t, hne, hsuffix, ht⟩ := hstart m hm
      exact ⟨t, hne, hsuffix.trans (List.suffix_cons c pre), ht⟩
    rw [List.length_cons] at hskip
    cases skip with
    | succ skip => exact hlater (by omega)
    | zero =>
      cases hmatch : M.matchAt (c :: (pre ++ rest)) with
      | none =>
        rw [List.cons_append, scan_of_none hmatch]
        exact hlater (Nat.zero_le _)
      | some m =>
        have hlength := h (c :: pre) m (List.cons_ne_nil _ _) (List.suffix_refl _) hmatch
        rw [List.length_cons] at hlength
        obtain ⟨ms, hms, hstart⟩ := @hlater (m.length - 1) (by omega)
        refine ⟨m :: ms, ?_, List.forall_mem_cons.mpr ⟨?_, hstart⟩⟩
        · rw [List.cons_append, scan_of_some hmatch, hms, List.cons_append]
        · exact ⟨c :: pre, List.cons_ne_nil _ _, List.suffix_refl _, hmatch⟩

/-- Matches are not empty. -/
theorem ne_nil_of_mem_scan {skip : ℕ} (h : m ∈ M.scan skip s) : m ≠ [] := by
  induction s generalizing skip with
  | nil => simp at h
  | cons c s ih =>
    cases skip with
    | succ skip => exact ih h
    | zero =>
      cases hmatch : M.matchAt (c :: s) with
      | none =>
        rw [scan_of_none hmatch] at h
        exact ih h
      | some m' =>
        rw [scan_of_some hmatch, List.mem_cons] at h
        rcases h with rfl | h
        · exact M.ne_nil hmatch
        · exact ih h

end Matcher

end SampleGrpc
