import Mathlib.Data.Nat.Digits.Defs
import SampleGrpc.Text.Base64Url

/-!
# Big-endian integers

Byte strings as unsigned integers, most significant byte first, through Mathlib's digits in base
256. The shortest encoding of an integer decodes to it, and leading zero bytes change nothing.
-/

namespace SampleGrpc.BigEndian

/-- The unsigned integer that a byte string encodes. -/
def value (bs : Bytes) : Nat := Nat.ofDigits 256 (bs.map UInt8.toNat).reverse

/-- The shortest byte string for an integer. -/
def encode (x : Nat) : Bytes := (Nat.digits 256 x).reverse.map UInt8.ofNat

/-- The Horner form, one byte at a time from the left. -/
theorem value_eq_foldl (bs : Bytes) : value bs = bs.foldl (fun acc b => acc * 256 + b.toNat) 0 := by
  rw [value, Nat.ofDigits_eq_foldr, List.foldr_reverse, List.foldl_map]
  simp only [Nat.cast_id, Nat.mul_comm 256, Nat.add_comm]

theorem value_zeros (k : Nat) (bs : Bytes) : value (List.replicate k 0 ++ bs) = value bs := by
  rw [value, value, List.map_append, List.map_replicate, List.reverse_append,
    List.reverse_replicate]
  exact Nat.ofDigits_append_replicate_zero _

theorem value_encode (x : Nat) : value (encode x) = x := by
  have hbytes : (Nat.digits 256 x).map (fun d => (UInt8.ofNat d).toNat) = Nat.digits 256 x := by
    refine (List.map_congr_left fun d hd => ?_).trans (List.map_id' _)
    exact UInt8.toNat_ofNat_of_lt' (Nat.digits_lt_base (by simp) hd)
  rw [value, encode, List.map_map, List.map_reverse, List.reverse_reverse]
  exact (congrArg _ hbytes).trans (Nat.ofDigits_digits 256 x)

end SampleGrpc.BigEndian
