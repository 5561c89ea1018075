import Mathlib.Data.List.Infix

/-!
# `grep`, as far as the scripts rely on it

A text is searched line by line. What a pattern matches in a line is a parameter; of a pattern
without operators other than the dot it is known: a dot stands for any character, every other
character for itself, anywhere in the line.

* `textLines` — the lines of a text.
* `Grep` — the matcher, with its law for plain patterns.
* `Grep.quiet_of_infix` — a plain pattern that occurs literally is found.
-/

namespace SampleGrpc

/-- The lines of a text, without their ends. -/
def textLines : List Char → List (List Char)
  | [] => []
  | c :: cs =>
    if c = '\n' then [] :: textLines cs
    else
      match textLines cs with
      | [] => [[c]]
      | l :: ls => (c :: l) :: ls

/-- The characters without a meaning of their own in a basic regular expression. -/
def Ordinary (c : Char) : Prop := c ∉ ['.', '[', '\\', '*', '^', '$', '\n']

instance (c : Char) : Decidable (Ordinary c) := by unfold Ordinary; infer_instance

/-- Ordinary characters and dots. -/
def PlainPattern (pat : List Char) : Prop := ∀ c ∈ pat, Ordinary c ∨ c = '.'

/-- The pattern matches at the start of the text. -/
def matchesHere : List Char → List Char → Bool
  | [], _ => true
  | _ :: _, [] => false
  | p :: ps, c :: cs => (p = '.' || p = c) && matchesHere ps cs

/-- The pattern matches somewhere in the line. -/
def matchesLine (pat : List Char) (line : List Char) : Bool := line.tails.any (matchesHere pat)

/-- The matcher of `grep`: a pattern against a line. -/
structure Grep where
  matchesIn : List Char → List Char → Bool
  plain : ∀ pat line, PlainPattern pat → matchesIn pat line = matchesLine pat line

/-- `grep -q pattern file`. -/
def Grep.quiet (G : Grep) (pat text : String) : Bool :=
  (textLines text.toList).any (G.matchesIn pat.toList)

/-- The matcher that takes every pattern for a plain one. -/
def Grep.literal : Grep := { matchesIn := matchesLine, plain := fun _ _ _ => rfl }

/-! ## Literal occurrences -/

theorem matchesHere_append (pat rest : List Char) : matchesHere pat (pat ++ rest) = true := by
  induction pat with
  | nil => rfl
  | cons p ps ih => simp [matchesHere, ih]

theorem matchesLine_of_infix {pat line : List Char} (h : pat <:+: line) :
    matchesLine pat line = true := by
  obtain ⟨pre, post, rfl⟩ := h
  rw [matchesLine, List.any_eq_true]
  refine ⟨pat ++ post, ?_, matchesHere_append pat post⟩
  rw [List.mem_tails, List.append_assoc]
  exact List.suffix_append pre (pat ++ post)

/-- Without dots a plain pattern matches itself. -/
theorem matchesHere_iff {pat s : List Char} (hpat : '.' ∉ pat) :
    matchesHere pat s = true ↔ pat <+: s := by
  induction pat generalizing s with
  | nil => exact iff_of_true rfl List.nil_prefix
  | cons c pat ih =>
    have hc : c ≠ '.' := fun h => hpat (h ▸ List.mem_cons_self)
    have hrest : '.' ∉ pat := fun h => hpat (List.mem_cons_of_mem c h)
    cases s with
    | nil => simp [matchesHere]
    | cons d s => simp [matchesHere, hc, ih hrest, List.cons_prefix_cons]

theorem matchesLine_cons (pat : List Char) (c : Char) (s : List Char) :
    matchesLine pat (c :: s) = (matchesHere pat (c :: s) || matchesLine pat s) := rfl

theorem matchesLine_eq_false {pat s : List Char}
    (h : ∀ u, u <:+ s → matchesHere pat u = false) : matchesLine pat s = false := by
  rw [matchesLine, List.any_eq_false]
  intro u hu
  rw [h u ((List.mem_tails _ _).mp hu)]
  exact Bool.false_ne_true

/-- A part of the line where no match begins can be cut off. -/
theorem matchesLine_append {pat pre rest : List Char}
    (h : ∀ u, u ≠ [] → u <:+ pre → matchesHere pat (u ++ rest) = false) :
    matchesLine pat (pre ++ rest) = matchesLine pat rest := by
  induction pre with
  | nil => rfl
  | cons c pre ih =>
    have hhere : matchesHere pat (c :: (pre ++ rest)) = false :=
      h (c :: pre) (List.cons_ne_nil _ _) (List.suffix_refl _)
    have hrest := ih fun u hne hsuffix => h u hne (hsuffix.trans (List.suffix_cons c pre))
    rw [← hrest, List.cons_append, matchesLine_cons, hhere, Bool.false_or]

/-- A text without line ends stands at the beginning of the first line. -/
theorem textLines_append {p : List Char} (hp : '\n' ∉ p) (hne : p ≠ []) (post : List Char) :
    ∃ l ls, textLines (p ++ post) = (p ++ l) :: ls := by
  induction p with
  | nil => exact absurd rfl hne
  | cons c p ih =>
    have hc : c ≠ '\n' := fun h => hp (h ▸ List.mem_cons_self)
    have hp' : '\n' ∉ p := fun h => hp (List.mem_cons_of_mem c h)
    rw [List.cons_append, textLines, if_neg hc]
    by_cases hnil : p = []
    · subst hnil
      cases hrest : textLines ([] ++ post) with
      | nil => exact ⟨[], [], rfl⟩
      | cons l ls => exact ⟨l, ls, rfl⟩
    · obtain ⟨l, ls, hlines⟩ := ih hp' hnil
      rw [hlines]
      exact ⟨l, ls, rfl⟩

/-- A text without line ends that occurs in a text occurs in one of its lines. -/
theorem exists_line_of_infix {p text : List Char} (hp : '\n' ∉ p) (hne : p ≠ [])
    (h : p <:+: text) : ∃ l ∈ textLines text, p <:+: l := by
  obtain ⟨pre, post, rfl⟩ := h
  induction pre with
  | nil =>
    obtain ⟨l, ls, hlines⟩ := textLines_append hp hne post
    refine ⟨p ++ l, ?_, (List.prefix_append p l).isInfix⟩
    rw [List.nil_append, hlines]
    exact List.mem_cons_self
  | cons c pre ih =>
    obtain ⟨l, hl, hinfix⟩ := ih
    have hcons : c :: pre ++ p ++ post = c :: (pre ++ p ++ post) := rfl
    rw [hcons, textLines]
    by_cases hc : c = '\n'
    · rw [if_pos hc]
      exact ⟨l, List.mem_cons_of_mem _ hl, hinfix⟩
    · rw [if_neg hc]
      cases hlines : textLines (pre ++ p ++ post) with
      | nil =>
        rw [hlines] at hl
        exact absurd hl List.not_mem_nil
      | cons m ms =>
        rw [hlines, List.mem_cons] at hl
        rcases hl with rfl | hl
        · exact ⟨c :: l, List.mem_cons_self, hinfix.trans (List.suffix_cons c l).isInfix⟩
        · exact ⟨l, List.mem_cons_of_mem _ hl, hinfix⟩

theorem PlainPattern.newline_notMem {pat : List Char} (h : PlainPattern pat) : '\n' ∉ pat := by
  intro hmem
  rcases h _ hmem with hord | hdot
  · exact hord (by simp)
  · cases hdot

/-- **A plain pattern that occurs literally is found.** -/
theorem Grep.quiet_of_infix (G : Grep) {pat text : String} (hplain : PlainPattern pat.toList)
    (hne : pat.toList ≠ []) (h : pat.toList <:+: text.toList) : G.quiet pat text = true := by
  obtain ⟨l, hl, hinfix⟩ := exists_line_of_infix hplain.newline_notMem hne h
  rw [Grep.quiet, List.any_eq_true]
  exact ⟨l, hl, by rw [G.plain _ _ hplain, matchesLine_of_infix hinfix]⟩

end SampleGrpc
