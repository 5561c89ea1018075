import SampleGrpc.Wire.Messages

/-!
# Numbers in base 128

A number is written seven bits a byte, the lowest first, with the high bit set on every byte but the
last. A string is its UTF-8 after its length; reading it drops a byte order mark.

`base128` is the writer and the reader, with their laws. Groups cannot be skipped, and bytes that
are not UTF-8 are an error.
-/

namespace SampleGrpc.Wire.Base128

/-! ## Bytes -/

def take (n : ℕ) : Read (List UInt8) := fun r =>
  if n ≤ r.rest.length then .ok (r.rest.take n, ⟨r.pos + n, r.rest.drop n⟩)
  else .error (.thrown "premature EOF")

theorem reads_take (bytes : List UInt8) : Reads (take bytes.length) bytes bytes := by
  intro pos rest
  have hlength : bytes.length ≤ (bytes ++ rest).length := by simp
  simp only [take, if_pos hlength, List.take_left', List.drop_left']

theorem passes_take (n : ℕ) : Passes (take n) n where
  ends r h := by
    rw [take] at h
    split at h <;> cases h
  ahead r a r' h := by
    by_cases hlength : n ≤ r.rest.length
    · rw [take, if_pos hlength] at h
      cases h
      simp only [List.length_drop]
      omega
    · rw [take, if_neg hlength] at h
      cases h

def byte : Read UInt8 := fun r =>
  match r.rest with
  | [] => .error (.thrown "premature EOF")
  | b :: rest => .ok (b, ⟨r.pos + 1, rest⟩)

theorem reads_byte (b : UInt8) : Reads byte [b] b := fun _ _ => rfl

theorem passes_byte : Passes byte 1 where
  ends := by
    rintro ⟨pos, _ | ⟨b, rest⟩⟩ h <;> cases h
  ahead := by
    rintro ⟨pos, _ | ⟨b, rest⟩⟩ a r' h
    · cases h
    · cases h
      exact Nat.le_refl _

theorem passes_throw {α : Type} (message : String) (n : ℕ) :
    Passes (throw (.thrown message) : Read α) n where
  ends r h := by cases h
  ahead r a r' h := by cases h

/-! ## Numbers -/

/-- The number in so many bytes and one more at most. -/
def digits : ℕ → ℕ → List UInt8
  | 0, n => [UInt8.ofNat n]
  | k + 1, n =>
    if n < 128 then [UInt8.ofNat n] else UInt8.ofNat (n % 128 + 128) :: digits k (n / 128)

/-- A number in so many bytes at most. -/
def varint : ℕ → Read ℕ
  | 0 => throw (.thrown "invalid varint")
  | k + 1 => do
    let b ← byte
    if b.toNat < 128 then return b.toNat
    else return b.toNat - 128 + 128 * (← varint k)

theorem toNat_ofNat {n : ℕ} (h : n < 256) : (UInt8.ofNat n).toNat = n := by
  rw [UInt8.toNat_ofNat', Nat.mod_eq_of_lt h]

theorem reads_varint_last {n : ℕ} (h : n < 128) (k : ℕ) :
    Reads (varint (k + 1)) [UInt8.ofNat n] n := by
  intro pos rest
  have hbyte := toNat_ofNat (by omega : n < 256)
  rw [varint, bind_of_reads (reads_byte _), hbyte, if_pos h]
  rfl

theorem reads_varint_cons {n k : ℕ} {bytes : List UInt8}
    (hrest : Reads (varint k) bytes (n / 128)) :
    Reads (varint (k + 1)) (UInt8.ofNat (n % 128 + 128) :: bytes) n := by
  intro pos rest
  have hbyte := toNat_ofNat (by omega : n % 128 + 128 < 256)
  have hread := hrest.map (fun m => n % 128 + 128 - 128 + 128 * m) (pos + 1) rest
  have hn : n % 128 + 128 - 128 + 128 * (n / 128) = n := by omega
  rw [hn, Nat.add_assoc, Nat.add_comm 1] at hread
  rw [varint, ← List.singleton_append, List.append_assoc, bind_of_reads (reads_byte _), hbyte,
    if_neg (by omega)]
  exact hread

theorem reads_varint {k : ℕ} (j : ℕ) {n : ℕ} (h : n < 128 ^ (k + 1)) :
    Reads (varint (k + 1 + j)) (digits k n) n := by
  induction k generalizing n with
  | zero =>
    rw [Nat.add_right_comm]
    exact reads_varint_last h (0 + j)
  | succ k ih =>
    rw [Nat.add_right_comm, digits]
    by_cases hn : n < 128
    · rw [if_pos hn]
      exact reads_varint_last hn _
    · rw [if_neg hn]
      refine reads_varint_cons (ih ?_)
      rw [Nat.div_lt_iff_lt_mul (by decide)]
      rwa [Nat.pow_succ] at h

theorem passes_varint (k : ℕ) : Passes (varint k) 1 := by
  induction k with
  | zero => exact passes_throw _ 1
  | succ k ih =>
    refine passes_byte.bind (m := 0) fun b => ?_
    by_cases hb : b.toNat < 128
    · simp only [if_pos hb]
      exact passes_pure _
    · simp only [if_neg hb]
      exact (ih.bind (m := 0) fun _ => passes_pure _).mono (Nat.zero_le _)

def uint32 : Read ℕ := do return (← varint 10) % 2 ^ 32

theorem reads_uint32 (n : ℕ) (h : n < 2 ^ 32) : Reads uint32 (digits 4 n) n := by
  have hread := (reads_varint 5 (n := n) (k := 4) (Nat.lt_trans h (by decide))).map (· % 2 ^ 32)
  rwa [Nat.mod_eq_of_lt h] at hread

theorem passes_uint32 : Passes uint32 1 := (passes_varint 10).bind (m := 0) fun _ => passes_pure _

def bool : Read Bool := do return (← varint 10) % 2 ^ 64 ≠ 0

theorem reads_bool (b : Bool) : Reads bool [if b then 1 else 0] b := by
  cases b with
  | false => exact (reads_varint_last (n := 0) (by decide) 9).map fun m => decide (m % 2 ^ 64 ≠ 0)
  | true => exact (reads_varint_last (n := 1) (by decide) 9).map fun m => decide (m % 2 ^ 64 ≠ 0)

/-! ## Strings -/

def utf8 (s : String) : List UInt8 := s.toByteArray.data.toList

def decodeUtf8 (bytes : List UInt8) : Read String :=
  match String.fromUTF8? ⟨bytes.toArray⟩ with
  | some s => pure (if s.toList.head? = some '\ufeff' then String.ofList s.toList.tail else s)
  | none => throw (.thrown "invalid UTF-8")

def writeString (s : String) : List UInt8 := digits 4 (utf8 s).length ++ utf8 s

def string : Read String := do decodeUtf8 (← take (← uint32))

theorem fromUTF8_utf8 (s : String) : String.fromUTF8? ⟨(utf8 s).toArray⟩ = some s := by
  show String.fromUTF8? s.toByteArray = some s
  rw [String.fromUTF8?, dif_pos s.isValidUTF8]
  rfl

theorem reads_string (s : String) (hs : Unmarked s) (h : (writeString s).length < 2 ^ 32) :
    Reads string (writeString s) s := by
  have hlength : (utf8 s).length < 2 ^ 32 := by
    rw [writeString, List.length_append] at h
    omega
  have hdecode : Reads (decodeUtf8 (utf8 s)) [] s := by
    rw [decodeUtf8, fromUTF8_utf8]
    simp only [if_neg hs]
    exact reads_pure s
  have hpayload := (reads_take (utf8 s)).bind (f := decodeUtf8) hdecode
  rw [List.append_nil] at hpayload
  exact (reads_uint32 _ hlength).bind (f := fun n => do decodeUtf8 (← take n)) hpayload

theorem passes_string : Passes string 0 := by
  refine (passes_uint32.bind (m := 0) fun n => ?_).mono (Nat.zero_le _)
  refine ((passes_take n).bind (m := 0) fun bytes => ?_).mono (Nat.zero_le _)
  rw [decodeUtf8]
  cases String.fromUTF8? ⟨bytes.toArray⟩ with
  | none => exact passes_throw _ 0
  | some s => exact passes_pure _

/-! ## Skipping -/

/-- What follows the first byte without the high bit. -/
def afterVarint : List UInt8 → Option (List UInt8)
  | [] => none
  | b :: rest => if b.toNat < 128 then some rest else afterVarint rest

def skipVarint : Read Unit := fun r =>
  match afterVarint r.rest with
  | none => .error (.thrown "premature EOF")
  | some rest => .ok ((), ⟨r.pos + (r.rest.length - rest.length), rest⟩)

theorem afterVarint_append {bytes : List UInt8} (hbytes : ∀ b ∈ bytes, 128 ≤ b.toNat)
    {last : UInt8} (hlast : last.toNat < 128) (rest : List UInt8) :
    afterVarint (bytes ++ [last] ++ rest) = some rest := by
  induction bytes with
  | nil => exact if_pos hlast
  | cons b bytes ih =>
    have hb := hbytes b List.mem_cons_self
    show (if b.toNat < 128 then _ else afterVarint (bytes ++ [last] ++ rest)) = _
    rw [if_neg (by omega), ih fun c hc => hbytes c (List.mem_cons_of_mem b hc)]

theorem length_afterVarint {bytes rest : List UInt8} (h : afterVarint bytes = some rest) :
    rest.length ≤ bytes.length := by
  induction bytes with
  | nil => cases h
  | cons b bytes ih =>
    rw [afterVarint] at h
    split at h
    · cases h
      exact Nat.le_succ _
    · exact Nat.le_succ_of_le (ih h)

def drop (n : ℕ) : Read Unit := do
  let _ ← take n
  return ()

theorem reads_drop (bytes : List UInt8) : Reads (drop bytes.length) bytes () :=
  (reads_take bytes).map fun _ => ()

theorem passes_drop (n : ℕ) : Passes (drop n) 0 :=
  ((passes_take n).bind (m := 0) fun _ => passes_pure _).mono (Nat.zero_le _)

def skip : ℕ → Read Unit
  | 0 => skipVarint
  | 1 => drop 8
  | 2 => do drop (← uint32)
  | 5 => drop 4
  | _ => throw (.thrown "cannot skip the wire type")

def writer : BinaryWriter where
  uint32 := digits 4
  string := writeString
  bool b := [if b then 1 else 0]

theorem reads_skip {wireType : ℕ} {bytes : List UInt8} (h : Payload writer wireType bytes) :
    Reads (skip wireType) bytes () := by
  cases h with
  | varint hbytes hlast =>
    intro pos rest
    simp only [skip, skipVarint, afterVarint_append hbytes hlast, List.length_append,
      Nat.add_sub_cancel]
  | bit64 h =>
    have hread := reads_drop bytes
    rwa [h] at hread
  | lengthDelimited h => exact (reads_uint32 _ h).bind (f := drop) (reads_drop _)
  | bit32 h =>
    have hread := reads_drop bytes
    rwa [h] at hread

theorem passes_skipVarint : Passes skipVarint 0 where
  ends r h := by
    rw [skipVarint] at h
    split at h <;> cases h
  ahead r a r' h := by
    rw [skipVarint] at h
    cases hafter : afterVarint r.rest with
    | none =>
      rw [hafter] at h
      cases h
    | some rest =>
      rw [hafter] at h
      cases h
      exact length_afterVarint hafter

theorem passes_skip (wireType : ℕ) : Passes (skip wireType) 0 := by
  unfold skip
  split
  · exact passes_skipVarint
  · exact passes_drop 8
  · exact (passes_uint32.bind (m := 0) passes_drop).mono (Nat.zero_le _)
  · exact passes_drop 4
  · exact passes_throw _ 0

end Base128

open Base128 in
/-- The writer and the reader of numbers in base 128. -/
def base128 : Binary where
  writer := writer
  reader := { uint32 := uint32, string := string, bool := bool, skip := skip }
  reads_uint32 := reads_uint32
  reads_string := reads_string
  reads_bool := reads_bool
  reads_skip := reads_skip
  passes_uint32 := passes_uint32
  passes_string := passes_string
  passes_bool := ((passes_varint 10).bind (m := 0) fun _ => passes_pure _).mono (Nat.zero_le _)
  passes_skip := passes_skip

end SampleGrpc.Wire
