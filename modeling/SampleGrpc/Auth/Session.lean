import SampleGrpc.Auth.Jwt

/-!
# Session tokens

`IssueJWT` and `ValidateJWT` of `internal/auth/auth.go`. A session token is an HMAC-SHA256 token
over `user_id`, `is_admin`, `iat` and `exp`; validation takes any HMAC method, requires `exp`, and
reads the two claims by unchecked type assertions.

* `Signed` — the token parses and its signature verifies under the secret.
* `validateJWT_ok_iff` — what is accepted, and with which claims.
* `issueJWT_eq` — what is issued.
* `claims_of_issueJWT` — an issued token says what it was issued for.
-/

namespace SampleGrpc

/-- The validated fields of a session token. -/
structure Claims where
  userID : String
  isAdmin : Bool
  deriving DecidableEq

inductive AuthError where
  | errUnauthenticated
  | errForbidden
  deriving DecidableEq

/-- The key function of `ValidateJWT`: the secret, for the HMAC methods only. -/
def hmacKeyFunc (secret : Bytes) (t : Token) : Except String Key :=
  match t.method with
  | .hmac _ => .ok (.bytes secret)
  | _ => .error ("unexpected signing method: " ++ t.header.getString "alg")

def validateJWT (J : GolangJwt) (now : Time) (tokenString : String) (secret : Bytes) :
    Except AuthError Claims :=
  if tokenString = "" then .error .errUnauthenticated
  else
    match J.parseWithClaims now tokenString (hmacKeyFunc secret) with
    | .error _ => .error .errUnauthenticated
    | .ok tok =>
      .ok { userID := tok.claims.getString "user_id", isAdmin := tok.claims.getBool "is_admin" }

/-- The claims of a session token issued at `now`. Its lifetime is 24 hours. -/
def sessionClaims (userID : String) (isAdmin : Bool) (now : Time) : List (String × Scalar) :=
  [("user_id", .str userID),
   ("is_admin", .bool isAdmin),
   ("iat", .int (Time.unix now)),
   ("exp", .int (Time.unix (now + Time.hours 24)))]

def issueJWT (J : GolangJwt) (now : Time) (userID : String) (isAdmin : Bool) (secret : Bytes) :
    Except String String :=
  match J.signedString (.hmac .sha256) (sessionClaims userID isAdmin now) secret with
  | .error err => .error ("sign JWT: " ++ err)
  | .ok signed => .ok signed

/-! ## What is accepted -/

/-- `s` parses as `t`, an HMAC token whose signature is the one that `secret` gives. -/
def Signed (J : GolangJwt) (secret : Bytes) (s : String) (t : Token) : Prop :=
  J.parseUnverified s = .ok t ∧
    ∃ h, t.method = .hmac h ∧
      Base64Url.decode t.signatureSegment = some (J.mac h secret t.signingString)

theorem hmacKeyFunc_eq_ok_iff {secret : Bytes} {t : Token} {key : Key} :
    hmacKeyFunc secret t = .ok key ↔ (∃ h, t.method = .hmac h) ∧ key = .bytes secret := by
  unfold hmacKeyFunc
  split
  · next h hm => simp [hm, eq_comm]
  · next hm =>
    refine ⟨?_, ?_⟩
    · intro h
      cases h
    · intro h
      obtain ⟨⟨h, hh⟩, -⟩ := h
      exact absurd hh (hm h)

theorem parseWithClaims_hmac_iff {J : GolangJwt} {now : Time} {s : String} {secret : Bytes}
    {t : Token} :
    J.parseWithClaims now s (hmacKeyFunc secret) = .ok t ↔
      Signed J secret s t ∧ t.claims.expOk J.seconds now = true ∧
        t.claims.nbfOk J.seconds now = true := by
  rw [J.parseWithClaims_ok, Signed, and_assoc]
  refine and_congr_right fun _ => and_congr_left fun _ => ?_
  refine ⟨?_, ?_⟩
  · intro h
    obtain ⟨sig, key, hsig, hkey, hverify⟩ := h
    obtain ⟨⟨h, hm⟩, rfl⟩ := hmacKeyFunc_eq_ok_iff.mp hkey
    rw [hm, J.verify_hmac] at hverify
    exact ⟨h, hm, hverify ▸ hsig⟩
  · intro h
    obtain ⟨h, hm, hsig⟩ := h
    refine ⟨_, .bytes secret, hsig, hmacKeyFunc_eq_ok_iff.mpr ⟨⟨h, hm⟩, rfl⟩, ?_⟩
    rw [hm, J.verify_hmac]

/-- **What `ValidateJWT` accepts.** -/
theorem validateJWT_ok_iff {J : GolangJwt} {now : Time} {s : String} {secret : Bytes}
    {c : Claims} :
    validateJWT J now s secret = .ok c ↔
      s ≠ "" ∧ ∃ t, Signed J secret s t ∧ t.claims.expOk J.seconds now = true ∧
        t.claims.nbfOk J.seconds now = true ∧
        c = ⟨t.claims.getString "user_id", t.claims.getBool "is_admin"⟩ := by
  unfold validateJWT
  split
  · next hs => simp [hs]
  · next hs =>
    split
    · next err herr =>
      refine ⟨?_, ?_⟩
      · intro h
        cases h
      · intro h
        obtain ⟨-, t, hsigned, hexp, hnbf, -⟩ := h
        rw [parseWithClaims_hmac_iff.mpr ⟨hsigned, hexp, hnbf⟩] at herr
        cases herr
    · next t ht =>
      obtain ⟨hsigned, hexp, hnbf⟩ := parseWithClaims_hmac_iff.mp ht
      refine ⟨?_, ?_⟩
      · intro h
        obtain rfl := Except.ok.inj h
        exact ⟨hs, t, hsigned, hexp, hnbf, rfl⟩
      · intro h
        obtain ⟨-, t', hsigned', -, -, rfl⟩ := h
        obtain rfl : t = t' := Except.ok.inj (hsigned.1.symm.trans hsigned'.1)
        rfl

theorem validateJWT_error {J : GolangJwt} {now : Time} {s : String} {secret : Bytes}
    {err : AuthError} (h : validateJWT J now s secret = .error err) :
    err = .errUnauthenticated := by
  unfold validateJWT at h
  split at h
  · exact (Except.error.inj h).symm
  · split at h
    · exact (Except.error.inj h).symm
    · cases h

/-! ## What is issued -/

/-- The signing string of a session token. -/
def sessionText (J : GolangJwt) (userID : String) (isAdmin : Bool) (now : Time) : String :=
  J.signingString (.hmac .sha256) (sessionClaims userID isAdmin now)

/-- **Issuing always succeeds**, with the claims signed under the secret. -/
theorem issueJWT_eq (J : GolangJwt) (now : Time) (userID : String) (isAdmin : Bool)
    (secret : Bytes) :
    issueJWT J now userID isAdmin secret =
      .ok (sessionText J userID isAdmin now ++ "." ++
        Base64Url.encode (J.mac .sha256 secret (sessionText J userID isAdmin now))) := by
  rw [issueJWT, J.signedString_hmac]
  rfl

/-- A parsed token over the text of an issued one has its claims. -/
theorem claims_of_sessionText {J : GolangJwt} {s : String} {t : Token} {userID : String}
    {isAdmin : Bool} {now : Time} (ht : J.parseUnverified s = .ok t)
    (htext : t.signingString = sessionText J userID isAdmin now) :
    t.method = .hmac .sha256 ∧
      t.claims.getString "user_id" = userID ∧ t.claims.getBool "is_admin" = isAdmin ∧
      t.claims.get "exp" = some (.num (Time.unix (now + Time.hours 24) : ℕ)) ∧
      t.claims.get "nbf" = none := by
  obtain ⟨hm, hget, -⟩ := J.parseUnverified_signed ht htext
  have hid : t.claims.get "user_id" = some (.str userID) := by
    rw [hget]; rfl
  have hadmin : t.claims.get "is_admin" = some (.bool isAdmin) := by
    rw [hget]; rfl
  refine ⟨hm, ?_, ?_, ?_, ?_⟩
  · simp [MapClaims.getString, hid]
  · simp [MapClaims.getBool, hadmin]
  · rw [hget]; rfl
  · rw [hget]; rfl

/-- **An issued token that is accepted says what it was issued for**, whenever and under whatever
secret it is accepted. -/
theorem claims_of_issueJWT {J : GolangJwt} {t₀ now : Time} {userID token : String} {isAdmin : Bool}
    {secret secret' : Bytes} {c : Claims} (htoken : issueJWT J t₀ userID isAdmin secret = .ok token)
    (hvalid : validateJWT J now token secret' = .ok c) : c = ⟨userID, isAdmin⟩ := by
  obtain ⟨-, t, ⟨hparse, h, -, hdecode⟩, -, -, rfl⟩ := validateJWT_ok_iff.mp hvalid
  rw [issueJWT_eq, Except.ok.injEq, J.parseUnverified_raw hparse] at htoken
  obtain ⟨htext, -⟩ := append_dot_inj (Base64Url.dot_notMem_encode _)
    (Base64Url.dot_notMem_of_decode hdecode) htoken
  obtain ⟨-, hid, hadmin, -, -⟩ := claims_of_sessionText hparse htext.symm
  rw [hid, hadmin]

theorem unix_add_hours (t : Time) (n : Nat) :
    Time.unix (t + Time.hours n) = Time.unix t + n * 3600 := by
  unfold Time.unix Time.hours
  exact Nat.add_mul_div_right t (n * 3600) (by decide)

/-- A session token's time claims hold until 24 hours after the second of its issue. -/
theorem expOk_sessionText {J : GolangJwt} {s : String} {t : Token} {userID : String}
    {isAdmin : Bool} {t₀ : Time} (ht : J.parseUnverified s = .ok t)
    (htext : t.signingString = sessionText J userID isAdmin t₀) (now : Time) :
    t.claims.expOk J.seconds now = true ↔ now < (Time.unix t₀ + 86400) * Time.second := by
  obtain ⟨-, -, -, hexp, -⟩ := claims_of_sessionText ht htext
  obtain ⟨-, -, hseconds⟩ := J.parseUnverified_signed ht htext
  have hfits : J.seconds (Time.unix (t₀ + Time.hours 24) : ℕ) =
      (Time.unix (t₀ + Time.hours 24) : ℕ) := by
    exact_mod_cast hseconds "exp" _ rfl
  rw [MapClaims.expOk_of_whole J.seconds_zero hexp hfits, unix_add_hours]

end SampleGrpc
