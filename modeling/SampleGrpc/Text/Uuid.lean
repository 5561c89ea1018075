import Mathlib.Data.Fin.Basic
import Mathlib.Order.Fin.Basic
import Mathlib.Tactic.Ring

/-!
# UUIDs and their text form

A UUID is a 128-bit number; rows are ordered by it. `text` is the canonical form the database
prints, 32 lower-case hexadecimal digits grouped 8-4-4-4-12. `parse` is what the database reads:
either letter case, hyphens optional after every second byte, and one optional pair of braces.
Reading back what is printed gives the same UUID (`parse_text`).
-/

namespace SampleGrpc

abbrev Uuid := Fin (2 ^ 128)

instance neZero_uuid : NeZero (2 ^ 128) := ⟨by decide⟩

namespace Uuid

def hexDigit (n : Nat) : Char := "0123456789abcdef".toList.getD n '0'

def hexValue (c : Char) : Option Nat :=
  if "0123456789abcdef".toList.idxOf c < 16 then some ("0123456789abcdef".toList.idxOf c)
  else if "0123456789ABCDEF".toList.idxOf c < 16 then
    some ("0123456789ABCDEF".toList.idxOf c)
  else none

/-- The last `n` bytes of `v`; a hyphen follows bytes 4, 6, 8 and 10 of the sixteen. -/
def render : Nat → Nat → List Char
  | 0, _ => []
  | n + 1, v =>
    hexDigit (v / 256 ^ n / 16 % 16) :: hexDigit (v / 256 ^ n % 16) ::
      if n = 12 ∨ n = 10 ∨ n = 8 ∨ n = 6 then '-' :: render n v else render n v

def text (u : Uuid) : String := String.ofList (render 16 u)

/-- Drop a hyphen, where one is allowed: after an even number of bytes, not after the last. -/
def skipHyphen (n : Nat) : List Char → List Char
  | '-' :: cs => if n % 2 = 0 ∧ n ≠ 0 then cs else '-' :: cs
  | cs => cs

/-- Read `n` bytes onto the value read so far; gives the rest of the text too. -/
def parseBytes : Nat → Nat → List Char → Option (Nat × List Char)
  | 0, acc, cs => some (acc, cs)
  | n + 1, acc, c :: d :: cs =>
    match hexValue c, hexValue d with
    | some x, some y => parseBytes n (acc * 256 + (x * 16 + y)) (skipHyphen n cs)
    | _, _ => none
  | _ + 1, _, _ => none

def parse (s : String) : Option Uuid :=
  match s.toList with
  | '{' :: cs =>
    match parseBytes 16 0 cs with
    | some (v, ['}']) => some (Fin.ofNat _ v)
    | _ => none
  | cs =>
    match parseBytes 16 0 cs with
    | some (v, []) => some (Fin.ofNat _ v)
    | _ => none

/-! ## Round trip -/

theorem hexDigit_spec : ∀ n < 16,
    hexValue (hexDigit n) = some n ∧ hexDigit n ≠ '-' ∧ hexDigit n ≠ '{' := by
  decide +kernel

theorem skipHyphen_of_ne {n : Nat} {c : Char} (cs : List Char) (hc : c ≠ '-') :
    skipHyphen n (c :: cs) = c :: cs := by
  unfold skipHyphen
  split
  · next h => exact absurd (List.cons.inj h).1 hc
  · rfl

theorem skipHyphen_render {n : Nat} (hn : n ≠ 0) (v : Nat) (rest : List Char) :
    skipHyphen n (render n v ++ rest) = render n v ++ rest := by
  obtain ⟨m, rfl⟩ := Nat.exists_eq_succ_of_ne_zero hn
  exact skipHyphen_of_ne _ (hexDigit_spec _ (Nat.mod_lt _ (by decide))).2.1

theorem byte_split (v n acc : Nat) :
    (acc * 256 + (v / 256 ^ n / 16 % 16 * 16 + v / 256 ^ n % 16)) * 256 ^ n + v % 256 ^ n =
      acc * 256 ^ (n + 1) + v % 256 ^ (n + 1) := by
  have hbyte : v / 256 ^ n / 16 % 16 * 16 + v / 256 ^ n % 16 = v / 256 ^ n % 256 := by omega
  rw [hbyte, Nat.pow_succ, Nat.mod_mul]
  ring

theorem parseBytes_render (n v acc : Nat) (rest : List Char) :
    parseBytes n acc (render n v ++ rest) = some (acc * 256 ^ n + v % 256 ^ n, rest) := by
  induction n generalizing acc with
  | zero => simp [parseBytes, render, Nat.mod_one]
  | succ n ih =>
    have hhigh := (hexDigit_spec (v / 256 ^ n / 16 % 16) (Nat.mod_lt _ (by decide))).1
    have hlow := (hexDigit_spec (v / 256 ^ n % 16) (Nat.mod_lt _ (by decide))).1
    have htail : skipHyphen n
        ((if n = 12 ∨ n = 10 ∨ n = 8 ∨ n = 6 then '-' :: render n v else render n v) ++ rest) =
          render n v ++ rest := by
      by_cases hyphen : n = 12 ∨ n = 10 ∨ n = 8 ∨ n = 6
      · rw [if_pos hyphen]
        have hallowed : n % 2 = 0 ∧ n ≠ 0 := by omega
        simp [skipHyphen, hallowed]
      · rw [if_neg hyphen]
        by_cases hn : n = 0
        · subst hn
          cases rest with
          | nil => rfl
          | cons c cs =>
            unfold skipHyphen
            split <;> simp_all [render]
        · exact skipHyphen_render hn v rest
    simp only [render, List.cons_append, parseBytes, hhigh, hlow, htail, ih]
    rw [byte_split]

/-- **What the database prints, it reads back.** -/
theorem parse_text (u : Uuid) : parse (text u) = some u := by
  have hparse := parseBytes_render 16 u 0 []
  have hu : (u : Nat) % 256 ^ 16 = u := Nat.mod_eq_of_lt u.isLt
  rw [List.append_nil, Nat.zero_mul, Nat.zero_add, hu] at hparse
  have hbrace := (hexDigit_spec ((u : Nat) / 256 ^ 15 / 16 % 16) (Nat.mod_lt _ (by decide))).2.2
  unfold parse
  rw [text, String.toList_ofList]
  split
  · next cs h =>
    rw [render] at h
    exact absurd (List.cons.inj h).1 hbrace
  · next cs h =>
    rw [hparse]
    simp

theorem text_injective : Function.Injective text := fun u v h => by
  have := congrArg parse h
  rwa [parse_text, parse_text, Option.some.injEq] at this

end Uuid

end SampleGrpc
