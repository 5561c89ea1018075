import Mathlib.Data.Rat.Floor
import Mathlib.Data.List.Basic
import SampleGrpc.Text.Base64Url

/-!
# The token library

Compact signed tokens, as the server uses them through `golang-jwt`. The library is a parameter:
`GolangJwt` collects the operations the server calls, with what is documented of them as laws.

* `parseUnverified` splits a token into its signing string and its signature segment and decodes
  header and claims from the former.
* `parseWithClaims` is `parseUnverified`, then the key function, then the signature, then the
  time claims, with `exp` required.
* `signedString` signs with a byte-string key.

Numbers in claims are decimal fractions; the rounding of very large ones is not modelled, and of a
date whose seconds do not fit 64 bits nothing is assumed.
-/

namespace SampleGrpc

/-- Nanoseconds since the Unix epoch. -/
abbrev Time := Nat

namespace Time

def second : Nat := 1000000000

/-- `t.Unix()`: whole seconds, rounded down. -/
def unix (t : Time) : Nat := t / second

def hours (n : Nat) : Nat := n * 3600 * second

/-- A time is before every second after its own. -/
theorem lt_unix_add (t : Time) {n : Nat} (hn : 0 < n) : t < (t.unix + n) * second := by
  have hsecond : t < (t.unix + 1) * second :=
    Nat.lt_mul_of_div_lt (Nat.lt_succ_self _) (by decide)
  exact lt_of_lt_of_le hsecond (Nat.mul_le_mul_right _ (by omega))

end Time

/-- A decoded JSON value. -/
inductive Json where
  | null
  | bool (b : Bool)
  | num (q : ℚ)
  | str (s : String)
  | arr (vs : List Json)
  | obj (kvs : List (String × Json))

/-- A decoded JSON object. -/
abbrev MapClaims := List (String × Json)

namespace MapClaims

/-- The map index expression `m[key]`. -/
def get (m : MapClaims) (key : String) : Option Json := m.lookup key

/-- `s, _ := m[key].(string)` -/
def getString (m : MapClaims) (key : String) : String :=
  match m.get key with
  | some (.str s) => s
  | _ => ""

/-- `b, _ := m[key].(bool)` -/
def getBool (m : MapClaims) (key : String) : Bool :=
  match m.get key with
  | some (.bool b) => b
  | _ => false

/-- `exp` is present and `now` is before it, for a reading of dates in seconds. The library reads a
zero date as an absent one. -/
def expOk (seconds : ℚ → ℤ) (now : Time) (m : MapClaims) : Bool :=
  match m.get "exp" with
  | some (.num q) => q ≠ 0 && decide ((now : ℤ) < seconds q * Time.second)
  | _ => false

/-- `nbf` is absent, or `now` is not before it. -/
def nbfOk (seconds : ℚ → ℤ) (now : Time) (m : MapClaims) : Bool :=
  match m.get "nbf" with
  | none => true
  | some (.num q) => q = 0 || decide (seconds q * Time.second ≤ (now : ℤ))
  | some _ => false

theorem getString_eq_iff {m : MapClaims} {key s : String} (hs : s ≠ "") :
    m.getString key = s ↔ m.get key = some (.str s) := by
  unfold getString
  split
  · next s' h => simp [h]
  · next h =>
    refine ⟨?_, ?_⟩
    · intro hempty
      exact absurd hempty.symm hs
    · intro hstr
      exact absurd hstr (h s)

theorem getBool_eq_true_iff {m : MapClaims} {key : String} :
    m.getBool key = true ↔ m.get key = some (.bool true) := by
  unfold getBool
  split
  · next b h => simp [h]
  · next h =>
    refine ⟨?_, ?_⟩
    · intro hf
      cases hf
    · intro ht
      exact absurd ht (h true)

variable {seconds : ℚ → ℤ}

theorem expOk_iff (hzero : seconds 0 = 0) {m : MapClaims} {now : Time} :
    m.expOk seconds now = true ↔
      ∃ q, m.get "exp" = some (.num q) ∧ (now : ℤ) < seconds q * Time.second := by
  unfold expOk
  split
  · next q h =>
    simp only [h, Bool.and_eq_true, decide_eq_true_eq, Option.some.injEq, Json.num.injEq,
      exists_eq_left']
    refine and_iff_right_of_imp ?_
    -- No clock time is before a zero date.
    rintro hlt rfl
    rw [hzero, zero_mul] at hlt
    omega
  · next h =>
    refine ⟨?_, ?_⟩
    · intro hf
      cases hf
    · intro hnum
      obtain ⟨q, hq, -⟩ := hnum
      exact absurd hq (h q)

theorem nbfOk_iff (hzero : seconds 0 = 0) {m : MapClaims} {now : Time} :
    m.nbfOk seconds now = true ↔
      ∀ v, m.get "nbf" = some v → ∃ q, v = .num q ∧ seconds q * Time.second ≤ (now : ℤ) := by
  unfold nbfOk
  split
  · next h => simp [h]
  · next q h =>
    simp only [h, Bool.or_eq_true, decide_eq_true_eq, Option.some.injEq, forall_eq',
      Json.num.injEq, exists_eq_left']
    refine or_iff_right_of_imp ?_
    rintro rfl
    simp [hzero]
  · next v hnum h =>
    refine ⟨?_, ?_⟩
    · intro hf
      cases hf
    · intro hall
      obtain ⟨q, rfl, -⟩ := hall v h
      exact absurd rfl (hnum q)

theorem expOk_of_whole (hzero : seconds 0 = 0) {m : MapClaims} {n : ℕ}
    (h : m.get "exp" = some (.num n)) (hn : seconds n = n) (now : Time) :
    m.expOk seconds now = true ↔ now < n * Time.second := by
  simp only [expOk_iff hzero, h, Option.some.injEq, Json.num.injEq, exists_eq_left', hn]
  exact_mod_cast Iff.rfl

theorem nbfOk_of_absent {m : MapClaims} (h : m.get "nbf" = none) (now : Time) :
    m.nbfOk seconds now = true := by
  rw [nbfOk, h]

end MapClaims

/-- A claim value on the signing side. -/
inductive Scalar where
  | str (s : String)
  | bool (b : Bool)
  | int (n : ℤ)
  deriving DecidableEq

/-- What a claim reads back as. -/
def Scalar.toJson : Scalar → Json
  | .str s => .str s
  | .bool b => .bool b
  | .int n => .num n

inductive HashAlg where
  | sha256
  | sha384
  | sha512
  deriving DecidableEq

inductive SigningMethod where
  | hmac (h : HashAlg)
  | rsa (h : HashAlg)
  | rsaPSS (h : HashAlg)
  | ecdsa (h : HashAlg)
  | ed25519
  | unsecured
  deriving DecidableEq

/-- The signing method a token's `alg` names. -/
def getSigningMethod : String → Option SigningMethod
  | "HS256" => some (.hmac .sha256)
  | "HS384" => some (.hmac .sha384)
  | "HS512" => some (.hmac .sha512)
  | "RS256" => some (.rsa .sha256)
  | "RS384" => some (.rsa .sha384)
  | "RS512" => some (.rsa .sha512)
  | "PS256" => some (.rsaPSS .sha256)
  | "PS384" => some (.rsaPSS .sha384)
  | "PS512" => some (.rsaPSS .sha512)
  | "ES256" => some (.ecdsa .sha256)
  | "ES384" => some (.ecdsa .sha384)
  | "ES512" => some (.ecdsa .sha512)
  | "EdDSA" => some .ed25519
  | "none" => some .unsecured
  | _ => none

/-- An RSASSA-PKCS1-v1_5 method other than the one with SHA-256. -/
theorem getSigningMethod_rsa {alg : String} {h : HashAlg}
    (hm : getSigningMethod alg = some (.rsa h)) :
    alg = "RS256" ∧ h = .sha256 ∨ alg = "RS384" ∧ h = .sha384 ∨ alg = "RS512" ∧ h = .sha512 := by
  unfold getSigningMethod at hm
  split at hm <;> simp_all

theorem getSigningMethod_hmac {alg : String} {h : HashAlg}
    (hm : getSigningMethod alg = some (.hmac h)) :
    alg = "HS256" ∧ h = .sha256 ∨ alg = "HS384" ∧ h = .sha384 ∨ alg = "HS512" ∧ h = .sha512 := by
  unfold getSigningMethod at hm
  split at hm <;> simp_all

structure RSAPublicKey where
  n : Nat
  e : ℤ
  deriving DecidableEq

inductive Key where
  | bytes (b : Bytes)
  | rsa (k : RSAPublicKey)
  deriving DecidableEq

/-- A parsed token. Its text is the signing string, a dot and the signature segment. -/
structure Token where
  header : MapClaims
  method : SigningMethod
  claims : MapClaims
  signingString : String
  signatureSegment : String

/-- The seconds of a date that the library can hold: 64 bits, from the epoch and from the year 1. -/
def Representable (n : ℤ) : Prop := -2 ^ 63 ≤ n ∧ n + 62135596800 < 2 ^ 63

/-- The token library: its operations and what is documented of them. -/
structure GolangJwt where
  parseUnverified : String → Except String Token
  parseWithClaims : Time → String → (Token → Except String Key) → Except String Token
  /-- `Token.SigningString`: the encoded header and claims. -/
  signingString : SigningMethod → List (String × Scalar) → String
  /-- `Token.SignedString` with a `[]byte` key. -/
  signedString : SigningMethod → List (String × Scalar) → Bytes → Except String String
  verify : SigningMethod → String → Bytes → Key → Bool
  mac : HashAlg → Bytes → String → Bytes
  /-- The seconds since the epoch of the date that a number in a claim stands for. -/
  seconds : ℚ → ℤ
  parseUnverified_raw : ∀ {s t}, parseUnverified s = .ok t →
    s = t.signingString ++ "." ++ t.signatureSegment
  /-- Header and claims are those encoded in the signing string. The integers that are signed are
  clock readings, which fit. -/
  parseUnverified_signed : ∀ {s t m c}, parseUnverified s = .ok t →
    t.signingString = signingString m c →
      t.method = m ∧ (∀ key, t.claims.get key = (c.lookup key).map Scalar.toJson) ∧
        ∀ key n, c.lookup key = some (.int n) → seconds n = n
  parseWithClaims_ok : ∀ {now s keyFunc t}, parseWithClaims now s keyFunc = .ok t ↔
    parseUnverified s = .ok t ∧
      (∃ sig key, Base64Url.decode t.signatureSegment = some sig ∧ keyFunc t = .ok key ∧
        verify t.method t.signingString sig key = true) ∧
      t.claims.expOk seconds now = true ∧ t.claims.nbfOk seconds now = true
  /-- `TimePrecision`: fractions of a second are cut off. -/
  seconds_eq : ∀ {q}, Representable ⌊q⌋ → seconds q = ⌊q⌋
  verify_hmac : ∀ {h text sig k},
    verify (.hmac h) text sig (.bytes k) = true ↔ sig = mac h k text
  /-- A key of any length signs, the empty one too. -/
  signedString_hmac : ∀ {h c k}, signedString (.hmac h) c k =
    .ok (signingString (.hmac h) c ++ "." ++ Base64Url.encode (mac h k (signingString (.hmac h) c)))

namespace GolangJwt

theorem seconds_zero (J : GolangJwt) : J.seconds 0 = 0 := by
  have hfits : Representable ⌊(0 : ℚ)⌋ := by
    rw [Int.floor_zero]
    exact ⟨by decide, by decide⟩
  rw [J.seconds_eq hfits, Int.floor_zero]

/-- The text encodings are inverse on these claims: what the library signs, it parses. -/
def ReadsBack (J : GolangJwt) (m : SigningMethod) (c : List (String × Scalar)) : Prop :=
  ∀ seg : String, '.' ∉ seg.toList →
    ∃ t, J.parseUnverified (J.signingString m c ++ "." ++ seg) = .ok t ∧
      t.signingString = J.signingString m c ∧ t.signatureSegment = seg

end GolangJwt

theorem cons_append_inj_of_notMem {α : Type} {a : α} :
    ∀ {u v x y : List α}, a ∉ u → a ∉ v → u ++ a :: x = v ++ a :: y → u = v ∧ x = y
  | [], [], _, _, _, _, h => ⟨rfl, (List.cons.inj h).2⟩
  | [], _ :: _, _, _, _, hv, h => absurd ((List.cons.inj h).1 ▸ List.mem_cons_self) hv
  | _ :: _, [], _, _, hu, _, h => absurd ((List.cons.inj h).1 ▸ List.mem_cons_self) hu
  | c :: u, d :: v, x, y, hu, hv, h => by
    obtain ⟨rfl, htail⟩ := List.cons.inj h
    have hu' : a ∉ u := fun hmem => hu (List.mem_cons_of_mem _ hmem)
    have hv' : a ∉ v := fun hmem => hv (List.mem_cons_of_mem _ hmem)
    obtain ⟨rfl, hxy⟩ := cons_append_inj_of_notMem hu' hv' htail
    exact ⟨rfl, hxy⟩

/-- A text is split by its last dot. -/
theorem append_dot_inj {a b x y : String} (hx : '.' ∉ x.toList) (hy : '.' ∉ y.toList)
    (h : a ++ "." ++ x = b ++ "." ++ y) : a = b ∧ x = y := by
  have hdot : (".": String).toList = ['.'] := rfl
  have hrev := congrArg (fun s : String => s.toList.reverse) h
  simp only [String.toList_append, hdot, List.reverse_append, List.reverse_cons, List.reverse_nil,
    List.nil_append, List.singleton_append] at hrev
  obtain ⟨hxy, hab⟩ := cons_append_inj_of_notMem (by simpa using hx) (by simpa using hy) hrev
  exact ⟨String.toList_inj.mp (List.reverse_injective hab),
    String.toList_inj.mp (List.reverse_injective hxy)⟩

end SampleGrpc
