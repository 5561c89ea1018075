import Mathlib.Algebra.Field.Rat
import Mathlib.Algebra.Order.Archimedean.Basic

/-!
# Lines as `awk` reads them

A line is split into fields at its blanks, and a field that is used as a number stands for the
decimal at its start.

* `fields_word`, `fields_blank` — the fields of a line, from the left.
* `Decimal` — decimals as they are written, with `number_text`, what `awk` makes of them.
-/

namespace SampleGrpc

/-! ## Fields -/

/-- The characters that separate fields. -/
def blank (c : Char) : Bool := c = ' ' || c = '\t'

/-- The fields of a line: its longest runs without blanks. -/
def fields (line : List Char) : List (List Char) := (line.splitOnP blank).filter (· ≠ [])

/-- `$n`, empty where there are fewer fields. -/
def field (n : ℕ) (line : List Char) : List Char := (fields line).getD (n - 1) []

theorem blank_eq_false {s : List Char} (hspace : ' ' ∉ s) (htab : '\t' ∉ s) :
    ∀ c ∈ s, blank c = false := by
  intro c hc
  by_contra hblank
  have hcases : c ≠ ' ' → c = '\t' := by simpa [blank] using hblank
  by_cases h : c = ' '
  · exact hspace (h ▸ hc)
  · exact htab (hcases h ▸ hc)

theorem fields_word {w : List Char} (hw : ∀ c ∈ w, blank c = false) (hne : w ≠ []) {sep : Char}
    (hsep : blank sep = true) (rest : List Char) :
    fields (w ++ sep :: rest) = w :: fields rest := by
  rw [fields, List.splitOnP_append_cons_of_forall_mem hw sep hsep rest,
    List.filter_cons_of_pos (by simpa using hne)]
  rfl

theorem fields_blank {c : Char} (hc : blank c = true) (rest : List Char) :
    fields (c :: rest) = fields rest := by
  have hsplit : (c :: rest).splitOnP blank = [] :: rest.splitOnP blank :=
    List.splitOnP_append_cons_of_forall_mem (List.forall_mem_nil _) c hc rest
  rw [fields, hsplit, List.filter_cons_of_neg (by simp)]
  rfl

theorem fields_single {w : List Char} (hw : ∀ c ∈ w, blank c = false) (hne : w ≠ []) :
    fields w = [w] := by
  rw [fields, List.splitOnP_eq_singleton hw, List.filter_cons_of_pos (by simpa using hne),
    List.filter_nil]

/-! ## Numbers -/

/-- The number that a row of digits stands for. -/
def digitsValue (ds : List (Fin 10)) : ℕ := ds.foldl (fun n d => 10 * n + d.val) 0

/-- A decimal, as it is written. -/
structure Decimal where
  negative : Bool
  whole : List (Fin 10)
  frac : List (Fin 10)
  deriving DecidableEq

/-- The last digit of a number. -/
def digit (n : ℕ) : Fin 10 := Fin.ofNat 10 n

def digitText (ds : List (Fin 10)) : List Char := ds.map fun d => Nat.digitChar d.val

/-- The digits that a text of digits is written with. -/
def digitsOf (s : List Char) : List (Fin 10) := s.map fun c => digit (c.toNat - '0'.toNat)

namespace Decimal

/-- The decimal as written: the point is there only before digits. -/
def text (d : Decimal) : List Char :=
  (if d.negative then ['-'] else []) ++ digitText d.whole ++
    if d.frac = [] then [] else '.' :: digitText d.frac

def magnitude (d : Decimal) : ℚ := digitsValue (d.whole ++ d.frac) / 10 ^ d.frac.length

def value (d : Decimal) : ℚ := if d.negative then -d.magnitude else d.magnitude

end Decimal

/-- The unsigned decimal at the start of a text. -/
def unsignedNumber (s : List Char) : ℚ :=
  let whole := s.takeWhile Char.isDigit
  match s.dropWhile Char.isDigit with
  | '.' :: rest =>
    let frac := rest.takeWhile Char.isDigit
    digitsValue (digitsOf (whole ++ frac)) / 10 ^ frac.length
  | _ => digitsValue (digitsOf whole)

/-- A text as a number: the decimal at its start, or 0. -/
def number : List Char → ℚ
  | '-' :: s => -unsignedNumber s
  | '+' :: s => unsignedNumber s
  | s => unsignedNumber s

theorem isDigit_digitChar (d : Fin 10) : (Nat.digitChar d).isDigit = true := by
  revert d
  decide

theorem digitsOf_digitText (ds : List (Fin 10)) : digitsOf (digitText ds) = ds := by
  have hdigit : ∀ d : Fin 10, digit ((Nat.digitChar d).toNat - '0'.toNat) = d := by decide
  induction ds with
  | nil => rfl
  | cons d ds ih =>
    show digit _ :: digitsOf (digitText ds) = d :: ds
    rw [ih, hdigit]

/-- The digits at the start of a text that goes on otherwise. -/
theorem span_digitText (ds : List (Fin 10)) (rest : List Char)
    (hrest : ∀ c ∈ rest.head?, c.isDigit = false) :
    (digitText ds ++ rest).takeWhile Char.isDigit = digitText ds ∧
      (digitText ds ++ rest).dropWhile Char.isDigit = rest := by
  induction ds with
  | nil =>
    cases rest with
    | nil => exact ⟨rfl, rfl⟩
    | cons c cs =>
      have hc : c.isDigit = false := hrest c rfl
      simp [digitText, hc]
  | cons d ds ih =>
    have hcons : digitText (d :: ds) ++ rest = Nat.digitChar d :: (digitText ds ++ rest) := rfl
    rw [hcons, List.takeWhile_cons_of_pos (isDigit_digitChar d),
      List.dropWhile_cons_of_pos (isDigit_digitChar d), ih.1, ih.2]
    exact ⟨rfl, rfl⟩

theorem unsignedNumber_text (whole frac : List (Fin 10)) :
    unsignedNumber (digitText whole ++ if frac = [] then [] else '.' :: digitText frac) =
      digitsValue (whole ++ frac) / 10 ^ frac.length := by
  by_cases hfrac : frac = []
  · subst hfrac
    obtain ⟨htake, hdrop⟩ := span_digitText whole [] (by simp)
    rw [if_pos rfl, unsignedNumber, htake, hdrop, digitsOf_digitText]
    simp
  · have hpoint : ∀ c ∈ ('.' :: digitText frac).head?, c.isDigit = false := by
      simp only [List.head?_cons, Option.mem_some_iff, forall_eq']
      decide
    obtain ⟨htake, hdrop⟩ := span_digitText whole _ hpoint
    have htake' := (span_digitText frac [] (by simp)).1
    rw [List.append_nil] at htake'
    rw [if_neg hfrac, unsignedNumber, htake, hdrop]
    simp only [htake']
    rw [digitsOf, List.map_append, ← digitsOf, ← digitsOf, digitsOf_digitText, digitsOf_digitText,
      digitText, List.length_map]

/-- A number without a sign. -/
theorem number_unsigned {s : List Char} (hs : ∀ c ∈ s.head?, c ≠ '-' ∧ c ≠ '+') :
    number s = unsignedNumber s := by
  unfold number
  split
  · exact absurd rfl (hs '-' rfl).1
  · exact absurd rfl (hs '+' rfl).2
  · rfl

theorem unsigned_head (whole frac : List (Fin 10)) :
    ∀ c ∈ (digitText whole ++ if frac = [] then [] else '.' :: digitText frac).head?,
      c ≠ '-' ∧ c ≠ '+' := by
  have hdigit : ∀ d : Fin 10, Nat.digitChar d ≠ '-' ∧ Nat.digitChar d ≠ '+' := by decide
  intro c hc
  cases whole with
  | cons d ds => exact (Option.mem_some_iff.mp hc) ▸ hdigit d
  | nil =>
    by_cases hfrac : frac = []
    · simp [hfrac, digitText] at hc
    · rw [if_neg hfrac] at hc
      exact (Option.mem_some_iff.mp hc) ▸ ⟨by decide, by decide⟩

/-- **A decimal is read as its value.** -/
theorem number_text (d : Decimal) : number d.text = d.value := by
  obtain ⟨negative, whole, frac⟩ := d
  cases negative with
  | true =>
    show -unsignedNumber (digitText whole ++ if frac = [] then [] else '.' :: digitText frac) = _
    rw [unsignedNumber_text]
    rfl
  | false =>
    have hnumber := number_unsigned (unsigned_head whole frac)
    rw [unsignedNumber_text] at hnumber
    exact hnumber

/-- Digits that stand for more than a given number. -/
theorem exists_lt_digitsValue (n : ℕ) : ∃ ds, n < digitsValue ds := by
  induction n with
  | zero => exact ⟨[digit 1], by decide⟩
  | succ n ih =>
    obtain ⟨ds, hds⟩ := ih
    have hzero : digitsValue (ds ++ [digit 0]) = 10 * digitsValue ds := by
      rw [digitsValue, List.foldl_append]
      rfl
    exact ⟨ds ++ [digit 0], by omega⟩

theorem exists_lt_value (x : ℚ) : ∃ d : Decimal, x < d.value := by
  obtain ⟨n, hn⟩ := exists_nat_gt x
  obtain ⟨ds, hds⟩ := exists_lt_digitsValue n
  refine ⟨⟨false, ds, []⟩, hn.trans ?_⟩
  have hvalue : (⟨false, ds, []⟩ : Decimal).value = digitsValue ds := by
    simp [Decimal.value, Decimal.magnitude]
  rw [hvalue]
  exact_mod_cast hds

end SampleGrpc
