import SampleGrpc.Auth.Jwt

/-!
# JSON Web Key sets

The JWKS helpers of `internal/auth/auth.go`: finding the key with a given `kid` and rebuilding the
RSA public key from its base64url fields. The download itself is an effect of the server.
-/

namespace SampleGrpc

structure JwkKey where
  kid : String
  kty : String
  alg : String
  n : String
  e : String
  deriving DecidableEq

structure JwksDocument where
  keys : List JwkKey
  deriving DecidableEq

/-- What `http.Get` on the JWKS URL leads to. A body stands for what `json.Unmarshal` makes of
it. -/
inductive HttpReply where
  | fetchError (err : String)
  | readError (err : String)
  | body (doc : Except String JwksDocument)

/-- The errors of `fetchRSAKey`, by the text each one is wrapped in. -/
inductive JwksError where
  /-- `fetch JWKS: %w` -/
  | fetch (err : String)
  /-- `read JWKS body: %w` -/
  | read (err : String)
  /-- `parse JWKS: %w` -/
  | parse (err : String)
  /-- `kid %q not found in JWKS` -/
  | kidNotFound (kid : String)
  /-- `decode JWK n: %w` -/
  | decodeN
  /-- `decode JWK e: %w` -/
  | decodeE
  deriving DecidableEq

/-- `new(big.Int).SetBytes(bs)`: the big-endian unsigned integer. -/
def setBytes (bs : Bytes) : Nat := bs.foldl (fun acc b => acc * 256 + b.toNat) 0

/-- `x.Int64()`: the low 64 bits, as a signed integer. -/
def int64 (x : Nat) : ℤ := (BitVec.ofNat 64 x).toInt

def jwkToRSA (k : JwkKey) : Except JwksError RSAPublicKey :=
  match Base64Url.decode k.n with
  | none => .error .decodeN
  | some nBytes =>
    match Base64Url.decode k.e with
    | none => .error .decodeE
    | some eBytes => .ok { n := setBytes nBytes, e := int64 (setBytes eBytes) }

theorem jwkToRSA_of_decode {k : JwkKey} {nBytes eBytes : Bytes}
    (hn : Base64Url.decode k.n = some nBytes) (he : Base64Url.decode k.e = some eBytes) :
    jwkToRSA k = .ok { n := setBytes nBytes, e := int64 (setBytes eBytes) } := by
  rw [jwkToRSA, hn, he]

/-- The search loop of `fetchRSAKey`: the first entry with the kid decides. -/
def findRSAKey (kid : String) : List JwkKey → Except JwksError RSAPublicKey
  | [] => .error (.kidNotFound kid)
  | k :: ks => if k.kid ≠ kid then findRSAKey kid ks else jwkToRSA k

/-- `fetchRSAKey` after the download. -/
def selectRSAKey (kid : String) : HttpReply → Except JwksError RSAPublicKey
  | .fetchError err => .error (.fetch err)
  | .readError err => .error (.read err)
  | .body (.error err) => .error (.parse err)
  | .body (.ok doc) => findRSAKey kid doc.keys

theorem findRSAKey_ok_iff {kid : String} {ks : List JwkKey} {key : RSAPublicKey} :
    findRSAKey kid ks = .ok key ↔
      ∃ k, ks.find? (fun k => k.kid = kid) = some k ∧ jwkToRSA k = .ok key := by
  induction ks with
  | nil => simp [findRSAKey]
  | cons k ks ih =>
    rw [findRSAKey, List.find?_cons]
    by_cases hkid : k.kid = kid
    · simp [hkid]
    · rw [if_pos hkid, ih]
      simp [hkid]

theorem selectRSAKey_ok_iff {kid : String} {reply : HttpReply} {key : RSAPublicKey} :
    selectRSAKey kid reply = .ok key ↔ ∃ doc, reply = .body (.ok doc) ∧
      ∃ k, doc.keys.find? (fun k => k.kid = kid) = some k ∧ jwkToRSA k = .ok key := by
  rcases reply with err | err | err | doc
  · simp [selectRSAKey]
  · simp [selectRSAKey]
  · simp [selectRSAKey]
  · rw [selectRSAKey, findRSAKey_ok_iff]
    simp

end SampleGrpc
