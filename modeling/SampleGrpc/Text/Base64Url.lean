import Mathlib.Data.List.Basic
import Mathlib.Data.Option.Basic

/-!
# Unpadded base64url

The text form of byte strings in compact tokens and JSON Web Keys: the URL alphabet, no padding.
The decoder is the lenient one: it skips line breaks and ignores the unused low bits of the last
character, so several texts decode to the same bytes. Encoding gives one of them, the canonical
one, and decoding it gives the bytes back (`decode_encode`).
-/

namespace SampleGrpc

abbrev Bytes := List UInt8

namespace Base64Url

def alphabet : List Char :=
  "ABCDEFGHIJKLMNOPQRSTUVWXYZabcdefghijklmnopqrstuvwxyz0123456789-_".toList

def encodeSextet (n : Nat) : Char := alphabet.getD n 'A'

def decodeSextet (c : Char) : Option Nat :=
  if alphabet.idxOf c < 64 then some (alphabet.idxOf c) else none

/-- Six bits at a time, most significant first; the last group is filled with zero bits. -/
def toSextets : Bytes → List Nat
  | a :: b :: c :: rest =>
    a.toNat / 4 :: (a.toNat % 4 * 16 + b.toNat / 16) :: (b.toNat % 16 * 4 + c.toNat / 64) ::
      c.toNat % 64 :: toSextets rest
  | [a, b] => [a.toNat / 4, a.toNat % 4 * 16 + b.toNat / 16, b.toNat % 16 * 4]
  | [a] => [a.toNat / 4, a.toNat % 4 * 16]
  | [] => []

/-- Eight bits at a time. A single leftover sextet is an error; leftover bits are ignored. -/
def ofSextets : List Nat → Option Bytes
  | w :: x :: y :: z :: rest =>
    (ofSextets rest).map fun bs =>
      UInt8.ofNat (w * 4 + x / 16) :: UInt8.ofNat (x % 16 * 16 + y / 4) ::
        UInt8.ofNat (y % 4 * 64 + z) :: bs
  | [w, x, y] => some [UInt8.ofNat (w * 4 + x / 16), UInt8.ofNat (x % 16 * 16 + y / 4)]
  | [w, x] => some [UInt8.ofNat (w * 4 + x / 16)]
  | [_] => none
  | [] => some []

def encode (bs : Bytes) : String := String.ofList ((toSextets bs).map encodeSextet)

def decode (s : String) : Option Bytes :=
  ((s.toList.filter fun c => c != '\r' && c != '\n').mapM decodeSextet).bind ofSextets

/-! ## Round trip -/

theorem encodeSextet_spec :
    ∀ n < 64, decodeSextet (encodeSextet n) = some n ∧ encodeSextet n ∈ alphabet := by
  decide +kernel

theorem alphabet_spec : ∀ c ∈ alphabet, c ≠ '\r' ∧ c ≠ '\n' ∧ c ≠ '.' := by
  have hall : alphabet.all (fun c => c ≠ '\r' ∧ c ≠ '\n' ∧ c ≠ '.') = true := by decide +kernel
  simpa using hall

theorem toSextets_lt (bs : Bytes) : ∀ n ∈ toSextets bs, n < 64 := by
  induction bs using toSextets.induct with
  | case1 a b c rest ih =>
    have ha := a.toNat_lt
    have hb := b.toNat_lt
    intro n hn
    simp only [toSextets, List.mem_cons] at hn
    rcases hn with rfl | rfl | rfl | rfl | hn
    · omega
    · omega
    · have hc := c.toNat_lt
      omega
    · omega
    · exact ih n hn
  | case2 a b =>
    have ha := a.toNat_lt
    have hb := b.toNat_lt
    intro n hn
    simp only [toSextets, List.mem_cons, List.not_mem_nil, or_false] at hn
    omega
  | case3 a =>
    have ha := a.toNat_lt
    intro n hn
    simp only [toSextets, List.mem_cons, List.not_mem_nil, or_false] at hn
    omega
  | case4 => simp [toSextets]

theorem ofNat_eq_of_toNat {a : UInt8} {n : Nat} (h : n = a.toNat) : UInt8.ofNat n = a := by
  rw [h, UInt8.ofNat_toNat]

theorem ofSextets_toSextets (bs : Bytes) : ofSextets (toSextets bs) = some bs := by
  induction bs using toSextets.induct with
  | case1 a b c rest ih =>
    have hb := b.toNat_lt
    have hc := c.toNat_lt
    simp only [toSextets, ofSextets, ih, Option.map_some]
    rw [ofNat_eq_of_toNat (a := a) (by omega), ofNat_eq_of_toNat (a := b) (by omega),
      ofNat_eq_of_toNat (a := c) (by omega)]
  | case2 a b =>
    have hb := b.toNat_lt
    simp only [toSextets, ofSextets]
    rw [ofNat_eq_of_toNat (a := a) (by omega), ofNat_eq_of_toNat (a := b) (by omega)]
  | case3 a =>
    simp only [toSextets, ofSextets]
    rw [ofNat_eq_of_toNat (a := a) (by omega)]
  | case4 => rfl

theorem mapM_decodeSextet {ns : List Nat} (h : ∀ n ∈ ns, n < 64) :
    (ns.map encodeSextet).mapM decodeSextet = some ns := by
  induction ns with
  | nil => rfl
  | cons n ns ih =>
    rw [List.map_cons, List.mapM_cons, (encodeSextet_spec n (h n List.mem_cons_self)).1,
      ih fun m hm => h m (List.mem_cons_of_mem _ hm)]
    rfl

/-- Encoded text has only characters of the alphabet, so no line break and no dot. -/
theorem mem_encode {bs : Bytes} {c : Char} (hc : c ∈ (encode bs).toList) : c ∈ alphabet := by
  rw [encode, String.toList_ofList, List.mem_map] at hc
  obtain ⟨n, hn, rfl⟩ := hc
  exact (encodeSextet_spec n (toSextets_lt bs n hn)).2

theorem dot_notMem_encode (bs : Bytes) : '.' ∉ (encode bs).toList := fun h =>
  (alphabet_spec _ (mem_encode h)).2.2 rfl

theorem decodeSextet_of_mapM {cs : List Char} {ns : List Nat} (h : cs.mapM decodeSextet = some ns)
    {c : Char} (hc : c ∈ cs) : ∃ n, decodeSextet c = some n := by
  induction cs generalizing ns with
  | nil => cases hc
  | cons d cs ih =>
    rw [List.mapM_cons] at h
    obtain ⟨n, hn, hrest⟩ := Option.bind_eq_some_iff.mp h
    obtain ⟨ms, hms, -⟩ := Option.bind_eq_some_iff.mp hrest
    rcases List.mem_cons.mp hc with rfl | hc
    · exact ⟨n, hn⟩
    · exact ih hms hc

/-- What can be decoded has no dot. -/
theorem dot_notMem_of_decode {s : String} {bs : Bytes} (h : decode s = some bs) :
    '.' ∉ s.toList := by
  intro hdot
  obtain ⟨ns, hns, -⟩ := Option.bind_eq_some_iff.mp h
  obtain ⟨n, hn⟩ := decodeSextet_of_mapM hns (List.mem_filter.mpr ⟨hdot, by decide⟩)
  have hnone : decodeSextet '.' = none := by decide
  rw [hnone] at hn
  cases hn

/-- **Decoding inverts encoding.** -/
theorem decode_encode (bs : Bytes) : decode (encode bs) = some bs := by
  have hfilter : ((encode bs).toList.filter fun c => c != '\r' && c != '\n') =
      (encode bs).toList := by
    rw [List.filter_eq_self]
    intro c hc
    have h := alphabet_spec c (mem_encode hc)
    simp [h.1, h.2.1]
  rw [decode, hfilter, encode, String.toList_ofList, mapM_decodeSextet (toSextets_lt bs)]
  exact ofSextets_toSextets bs

/-- The decoder skips a line break. -/
theorem decode_newline (s : String) : decode (s ++ "\n") = decode s := by
  have htext : (s ++ "\n").toList = s.toList ++ ['\n'] := String.toList_append
  have hfilter : ['\n'].filter (fun c => c != '\r' && c != '\n') = [] := by decide
  rw [decode, htext, List.filter_append, hfilter, List.append_nil]
  rfl

/-- The text is the one that encoding its bytes gives. -/
def Canonical (s : String) : Prop := ∀ bs, decode s = some bs → encode bs = s

end Base64Url

end SampleGrpc
