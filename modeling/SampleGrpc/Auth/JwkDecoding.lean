import SampleGrpc.Auth.Jwks
import SampleGrpc.Text.BigEndian

/-!
# Decoding a JSON Web Key

`jwkToRSA` keeps the modulus at full precision and passes the exponent through the low 64 bits of a
signed integer. What comes out is the encoded key exactly when the encoded exponent is below 2^63.

* `DecodesFaithfully` — the result is an error or the encoded key.
* `jwkToRSA_faithful` — faithfulness, the round trip and injectivity, each with its exact condition.
-/

namespace SampleGrpc

theorem setBytes_eq_value (bs : Bytes) : setBytes bs = BigEndian.value bs :=
  (BigEndian.value_eq_foldl bs).symm

/-! ## The narrowing to 64 bits -/

theorem int64_eq_iff (x y : Nat) : int64 x = int64 y ↔ x % 2 ^ 64 = y % 2 ^ 64 := by
  rw [int64, int64, BitVec.toInt_inj, ← BitVec.toNat_inj, BitVec.toNat_ofNat, BitVec.toNat_ofNat]

theorem int64_eq_self_iff (x : Nat) : int64 x = x ↔ x < 2 ^ 63 := by
  rw [int64, BitVec.toInt_eq_toNat_cond, BitVec.toNat_ofNat]
  split <;> omega

/-! ## Faithful decoding -/

/-- The fields of the key encode the integers `n` and `e`. -/
def JwkKey.Encodes (k : JwkKey) (n e : Nat) : Prop :=
  (∃ nBytes, Base64Url.decode k.n = some nBytes ∧ BigEndian.value nBytes = n) ∧
    ∃ eBytes, Base64Url.decode k.e = some eBytes ∧ BigEndian.value eBytes = e

/-- `jwkToRSA` gives an error, or the key that the fields encode. -/
def JwkKey.DecodesFaithfully (k : JwkKey) : Prop :=
  ∀ key, jwkToRSA k = .ok key → ∃ n e, k.Encodes n e ∧ key.n = n ∧ key.e = e

/-- The key with its fields set to the encodings of `n` and `e`, after some leading zero bytes. -/
def JwkKey.ofInts (k : JwkKey) (i j n e : Nat) : JwkKey :=
  { k with
    n := Base64Url.encode (List.replicate i 0 ++ BigEndian.encode n)
    e := Base64Url.encode (List.replicate j 0 ++ BigEndian.encode e) }

theorem JwkKey.encodes_ofInts (k : JwkKey) (i j n e : Nat) : (k.ofInts i j n e).Encodes n e := by
  refine ⟨⟨_, Base64Url.decode_encode _, ?_⟩, ⟨_, Base64Url.decode_encode _, ?_⟩⟩
  · rw [BigEndian.value_zeros, BigEndian.value_encode]
  · rw [BigEndian.value_zeros, BigEndian.value_encode]

theorem JwkKey.Encodes.unique {k : JwkKey} {n e n' e' : Nat} (h : k.Encodes n e)
    (h' : k.Encodes n' e') : n = n' ∧ e = e' := by
  obtain ⟨⟨nBytes, hn, rfl⟩, eBytes, he, rfl⟩ := h
  obtain ⟨⟨nBytes', hn', rfl⟩, eBytes', he', rfl⟩ := h'
  obtain rfl := Option.some.inj (hn.symm.trans hn')
  obtain rfl := Option.some.inj (he.symm.trans he')
  exact ⟨rfl, rfl⟩

theorem jwkToRSA_of_encodes {k : JwkKey} {n e : Nat} (h : k.Encodes n e) :
    jwkToRSA k = .ok { n, e := int64 e } := by
  obtain ⟨⟨nBytes, hn, rfl⟩, eBytes, he, rfl⟩ := h
  rw [jwkToRSA_of_decode hn he, setBytes_eq_value, setBytes_eq_value]

theorem jwkToRSA_ok_iff {k : JwkKey} {key : RSAPublicKey} :
    jwkToRSA k = .ok key ↔ ∃ n e, k.Encodes n e ∧ key = { n, e := int64 e } := by
  constructor
  · intro h
    cases hn : Base64Url.decode k.n with
    | none => simp [jwkToRSA, hn] at h
    | some nBytes =>
      cases he : Base64Url.decode k.e with
      | none => simp [jwkToRSA, hn, he] at h
      | some eBytes =>
        have hencodes : k.Encodes (BigEndian.value nBytes) (BigEndian.value eBytes) :=
          ⟨⟨nBytes, hn, rfl⟩, eBytes, he, rfl⟩
        rw [jwkToRSA_of_encodes hencodes] at h
        exact ⟨_, _, hencodes, (Except.ok.inj h).symm⟩
  · rintro ⟨n, e, hencodes, rfl⟩
    exact jwkToRSA_of_encodes hencodes

theorem JwkKey.decodesFaithfully_iff (k : JwkKey) :
    k.DecodesFaithfully ↔ ∀ n e, k.Encodes n e → e < 2 ^ 63 := by
  constructor
  · intro h n e hencodes
    obtain ⟨n', e', hencodes', -, he⟩ := h _ (jwkToRSA_of_encodes hencodes)
    obtain ⟨-, rfl⟩ := hencodes.unique hencodes'
    exact (int64_eq_self_iff e).mp he
  · intro h key hkey
    obtain ⟨n, e, hencodes, rfl⟩ := jwkToRSA_ok_iff.mp hkey
    exact ⟨n, e, hencodes, rfl, (int64_eq_self_iff e).mpr (h n e hencodes)⟩

theorem jwkToRSA_ofInts_iff (k : JwkKey) (i j n e : Nat) :
    jwkToRSA (k.ofInts i j n e) = .ok { n, e } ↔ e < 2 ^ 63 := by
  rw [jwkToRSA_of_encodes (k.encodes_ofInts i j n e)]
  simp [int64_eq_self_iff]

/-- Two keys that encode different pairs stay apart, unless the moduli agree and the exponents
agree in their low 64 bits. -/
theorem jwkToRSA_apart_iff {k k' : JwkKey} {n e n' e' : Nat} (h : k.Encodes n e)
    (h' : k'.Encodes n' e') :
    jwkToRSA k ≠ jwkToRSA k' ↔ ¬(n = n' ∧ e % 2 ^ 64 = e' % 2 ^ 64) := by
  rw [jwkToRSA_of_encodes h, jwkToRSA_of_encodes h']
  simp [int64_eq_iff]

/-- **Decoding keeps the key exactly below 2^63.** Of the three parts: a key decodes to an error or
to what it encodes exactly when the exponent it encodes is below 2^63; under the same condition
decoding inverts the encoding of a key, whatever the leading zero bytes; and two keys that encode
different pairs decode to different keys exactly when their exponents differ in the low 64 bits or
their moduli differ, which is always so below 2^63. -/
theorem jwkToRSA_faithful (k : JwkKey) :
    (k.DecodesFaithfully ↔ ∀ n e, k.Encodes n e → e < 2 ^ 63) ∧
      (∀ i j n e : Nat, jwkToRSA (k.ofInts i j n e) = .ok { n, e } ↔ e < 2 ^ 63) ∧
      (∀ (k' : JwkKey) (n e n' e' : Nat), k.Encodes n e → k'.Encodes n' e' →
        (n, e) ≠ (n', e') →
          (jwkToRSA k ≠ jwkToRSA k' ↔ ¬(n = n' ∧ e % 2 ^ 64 = e' % 2 ^ 64)) ∧
            (e < 2 ^ 63 → e' < 2 ^ 63 → jwkToRSA k ≠ jwkToRSA k')) := by
  refine ⟨k.decodesFaithfully_iff, jwkToRSA_ofInts_iff k, ?_⟩
  intro k' n e n' e' h h' hne
  refine ⟨jwkToRSA_apart_iff h h', fun he he' => (jwkToRSA_apart_iff h h').mpr ?_⟩
  rintro ⟨rfl, hmod⟩
  rw [Nat.mod_eq_of_lt (by omega), Nat.mod_eq_of_lt (by omega)] at hmod
  exact hne (by rw [hmod])

/-- The exponent 2^64 + 3 becomes 3. -/
theorem jwkToRSA_wraps :
    ¬JwkKey.DecodesFaithfully
      { kid := "k1", kty := "RSA", alg := "RS256", n := "AQAB", e := "AQAAAAAAAAAD" } := by
  intro h
  have hencodes : JwkKey.Encodes
      { kid := "k1", kty := "RSA", alg := "RS256", n := "AQAB", e := "AQAAAAAAAAAD" }
      65537 (2 ^ 64 + 3) :=
    ⟨⟨[1, 0, 1], by decide +kernel, by decide⟩,
      [1, 0, 0, 0, 0, 0, 0, 0, 3], by decide +kernel, by decide⟩
  exact absurd ((JwkKey.decodesFaithfully_iff _).mp h _ _ hencodes) (by decide)

end SampleGrpc
