import SampleGrpc.Auth.KeyOrder

/-!
# Signature algorithms

Both verifiers check the family of the signing method by a type assertion, which holds for every
hash of the family, and neither looks at the `alg` of the JSON Web Key. So the algorithms are pinned
exactly against the tokens that pass every check but carry another hash of the family, or that a key
for another algorithm verifies.

* `GolangJwt.MethodByAlg` — the method of a parsed token is the one that its header names.
* `GooglePinned`, `SessionPinned` — what the two verifiers document.
* `algorithms_pinned_iff` — when they keep to it.
-/

namespace SampleGrpc

open Prog

/-- The parser takes the signing method from the `alg` header. -/
def GolangJwt.MethodByAlg (J : GolangJwt) : Prop :=
  ∀ s tok, J.parseUnverified s = .ok tok →
    ∃ alg, tok.header.get "alg" = some (.str alg) ∧ getSigningMethod alg = some tok.method

/-- The key is for RS256, or does not say what it is for. -/
def JwkKey.ForRS256 (k : JwkKey) : Prop := k.alg = "" ∨ k.alg = "RS256"

/-- `VerifyGoogleIDToken` returns claims only for a token with `alg` RS256, signed with SHA-256
under an RSA key that is for RS256. -/
def GooglePinned (J : GolangJwt) (rawToken jwksURL clientID : String) (es : ℕ → Env)
    (t : UsersTable) : Prop :=
  ∀ g, (play exec (verifyGoogleIDToken J rawToken jwksURL clientID) es t).1 = .ok g →
    ∃ doc tok entry key sig, (es 0).http jwksURL = .body (.ok doc) ∧
      J.parseUnverified rawToken = .ok tok ∧ tok.header.get "alg" = some (.str "RS256") ∧
      doc.keys.find? tok.named = some entry ∧ entry.ForRS256 ∧ jwkToRSA entry = .ok key ∧
      Base64Url.decode tok.signatureSegment = some sig ∧
      J.verify (.rsa .sha256) tok.signingString sig (.rsa key) = true

/-- `ValidateJWT` returns claims only for a token with `alg` HS256, signed with SHA-256 under the
secret. -/
def SessionPinned (J : GolangJwt) (now : Time) (tokenString : String) (secret : Bytes) : Prop :=
  ∀ c, validateJWT J now tokenString secret = .ok c →
    ∃ tok sig, J.parseUnverified tokenString = .ok tok ∧
      tok.header.get "alg" = some (.str "HS256") ∧
      Base64Url.decode tok.signatureSegment = some sig ∧
      J.verify (.hmac .sha256) tok.signingString sig (.bytes secret) = true

/-- The token passes every check, and its header names another RSA hash, or the first entry with its
kid is for another algorithm. -/
def GoogleConfusable (J : GolangJwt) (rawToken clientID : String) (now : Time)
    (reply : HttpReply) : Prop :=
  ∃ doc tok entry, reply = .body (.ok doc) ∧ PassesOtherChecks J rawToken clientID now tok ∧
    doc.keys.find? tok.named = some entry ∧ entry.Verifies J tok ∧
    (tok.header.get "alg" = some (.str "RS384") ∨ tok.header.get "alg" = some (.str "RS512") ∨
      ¬entry.ForRS256)

/-- The token passes every check, and its header names another HMAC hash. -/
def SessionConfusable (J : GolangJwt) (now : Time) (tokenString : String) (secret : Bytes) :
    Prop :=
  tokenString ≠ "" ∧ ∃ tok, Signed J secret tokenString tok ∧
    tok.claims.expOk J.seconds now = true ∧ tok.claims.nbfOk J.seconds now = true ∧
    (tok.header.get "alg" = some (.str "HS384") ∨ tok.header.get "alg" = some (.str "HS512"))

section

variable {J : GolangJwt} {rawToken jwksURL clientID tokenString : String} {es : ℕ → Env}
variable {t : UsersTable} {now : Time} {secret : Bytes}

theorem googlePinned_iff (hJ : J.MethodByAlg) :
    GooglePinned J rawToken jwksURL clientID es t ↔
      ¬GoogleConfusable J rawToken clientID (es 1).now ((es 0).http jwksURL) := by
  constructor
  · intro hpinned hconfusable
    obtain ⟨doc, tok, entry, hdoc, hpass, hentry, hverifies, hother⟩ := hconfusable
    obtain ⟨doc', tok', entry', key, sig, hdoc', hparsed', halg, hentry', hfor, -⟩ :=
      hpinned _ (verifyGoogleIDToken_ok_iff.mpr
        ⟨doc, tok, entry, hdoc, hpass, hentry, hverifies, rfl⟩)
    obtain rfl : tok = tok' := Except.ok.inj (hpass.parsed.symm.trans hparsed')
    obtain rfl : doc = doc' := Except.ok.inj (HttpReply.body.inj (hdoc.symm.trans hdoc'))
    obtain rfl : entry = entry' := Option.some.inj (hentry.symm.trans hentry')
    rcases hother with hother | hother | hother
    · simp [halg] at hother
    · simp [halg] at hother
    · exact hother hfor
  · intro hclear g hg
    obtain ⟨doc, tok, entry, hdoc, hpass, hentry, hverifies, -⟩ :=
      verifyGoogleIDToken_ok_iff.mp hg
    have hnot (hother : tok.header.get "alg" = some (.str "RS384") ∨
        tok.header.get "alg" = some (.str "RS512") ∨ ¬entry.ForRS256) : False :=
      hclear ⟨doc, tok, entry, hdoc, hpass, hentry, hverifies, hother⟩
    obtain ⟨key, h, sig, hkey, hmethod, hsig, hverify⟩ := hverifies
    obtain ⟨alg, halg, hget⟩ := hJ _ _ hpass.parsed
    rw [hmethod] at hget
    rcases getSigningMethod_rsa hget with ⟨rfl, rfl⟩ | ⟨rfl, rfl⟩ | ⟨rfl, rfl⟩
    · have hfor : entry.ForRS256 := by
        by_contra hfor
        exact hnot (.inr (.inr hfor))
      exact ⟨doc, tok, entry, key, sig, hdoc, hpass.parsed, halg, hentry, hfor, hkey, hsig, hverify⟩
    · exact (hnot (.inl halg)).elim
    · exact (hnot (.inr (.inl halg))).elim

theorem sessionPinned_iff (hJ : J.MethodByAlg) :
    SessionPinned J now tokenString secret ↔ ¬SessionConfusable J now tokenString secret := by
  constructor
  · intro hpinned hconfusable
    obtain ⟨hne, tok, hsigned, hexp, hnbf, hother⟩ := hconfusable
    obtain ⟨tok', sig, hparsed', halg, -⟩ :=
      hpinned _ (validateJWT_ok_iff.mpr ⟨hne, tok, hsigned, hexp, hnbf, rfl⟩)
    obtain rfl : tok = tok' := Except.ok.inj (hsigned.1.symm.trans hparsed')
    rcases hother with hother | hother
    · simp [halg] at hother
    · simp [halg] at hother
  · intro hclear c hc
    obtain ⟨hne, tok, hsigned, hexp, hnbf, -⟩ := validateJWT_ok_iff.mp hc
    have hnot (hother : tok.header.get "alg" = some (.str "HS384") ∨
        tok.header.get "alg" = some (.str "HS512")) : False :=
      hclear ⟨hne, tok, hsigned, hexp, hnbf, hother⟩
    obtain ⟨hparsed, h, hmethod, hsig⟩ := hsigned
    obtain ⟨alg, halg, hget⟩ := hJ _ _ hparsed
    rw [hmethod] at hget
    rcases getSigningMethod_hmac hget with ⟨rfl, rfl⟩ | ⟨rfl, rfl⟩ | ⟨rfl, rfl⟩
    · exact ⟨tok, _, hparsed, halg, hsig, J.verify_hmac.mpr rfl⟩
    · exact (hnot (.inl halg)).elim
    · exact (hnot (.inr halg)).elim

end

/-- **When the algorithms are pinned.** A token is accepted only with the documented algorithm
exactly when it is not one that passes every other check with another hash of the family, or under
a key for another algorithm. -/
theorem algorithms_pinned_iff (J : GolangJwt) (hJ : J.MethodByAlg)
    (rawToken jwksURL clientID : String) (es : ℕ → Env) (t : UsersTable)
    (tokenString : String) (secret : Bytes) (now : Time) :
    (GooglePinned J rawToken jwksURL clientID es t ↔
        ¬GoogleConfusable J rawToken clientID (es 1).now ((es 0).http jwksURL)) ∧
      (SessionPinned J now tokenString secret ↔
        ¬SessionConfusable J now tokenString secret) :=
  ⟨googlePinned_iff hJ, sessionPinned_iff hJ⟩

namespace Sample

theorem table_methodByAlg {T : TokenTable} (hentries : T.entries.all (fun e =>
    getSigningMethod (e.header.getString "alg") = some e.method) = true) :
    T.toGolangJwt.MethodByAlg := by
  intro s tok htok
  obtain ⟨e, he, seg, -, rfl, -⟩ := TokenTable.parseUnverified_ok (T := T) htok
  have hmethod := List.all_eq_true.mp hentries e he
  simp only [decide_eq_true_eq] at hmethod
  have hne : e.header.getString "alg" ≠ "" := by
    intro hempty
    rw [hempty] at hmethod
    cases hmethod
  exact ⟨_, (MapClaims.getString_eq_iff hne).mp rfl, hmethod⟩

theorem jwt_methodByAlg : jwt.MethodByAlg := table_methodByAlg (T := table) (by decide +kernel)

theorem withToken_methodByAlg {J : GolangJwt} (hJ : J.MethodByAlg) {x : ExtraToken} (alg : String)
    (halg : x.header.get "alg" = some (.str alg)) (hmethod : getSigningMethod alg = some x.method)
    {mac : HashAlg → Bytes → String → Bytes}
    (hfresh : ∀ m c, J.signingString m c ≠ x.signingString) :
    (J.withToken x mac hfresh).MethodByAlg := by
  intro s tok htok
  rcases GolangJwt.parseExtra_cases htok with ⟨seg, rfl, -⟩ | hparsed
  · exact ⟨alg, halg, hmethod⟩
  · exact hJ s tok hparsed

/-- A Google ID token signed with RS384, under a key that is for RS256. -/
def rs384 : ExtraToken :=
  { method := .rsa .sha384
    header := [("alg", .str "RS384"), ("kid", .str "k1"), ("typ", .str "JWT")]
    claims := adaToken.claims
    signingString :=
      "eyJhbGciOiJSUzM4NCIsImtpZCI6ImsxIiwidHlwIjoiSldUIn0.eyJpc3MiOiJodHRwczovL2FjY291bnRz" ++
      "Lmdvb2dsZS5jb20iLCJhdWQiOiJzYW1wbGUuYXBwcy5nb29nbGV1c2VyY29udGVudC5jb20iLCJzdWIiOiIx" ++
      "MDgxNzY4MTQ2MTk3NzgxMjM0NTYiLCJlbWFpbCI6ImFkYUBleGFtcGxlLmNvbSIsIm5hbWUiOiJBZGEiLCJp" ++
      "YXQiOjE2OTk5OTk5NDAsImV4cCI6MTcwMDAwMzU0MH0"
    key := .rsa publicKey
    signature :=
      [190, 59, 189, 61, 88, 158, 102, 123, 157, 228, 114, 242, 87, 159, 108, 67, 93, 227, 195,
       134, 110, 15, 180, 176, 115, 204, 170, 187, 218, 80, 235, 238, 68, 63, 113, 144, 185, 136,
       231, 82, 163, 164, 213, 170, 19, 204, 171, 147, 167, 54, 187, 228, 250, 110, 11, 200, 175,
       111, 102, 107, 26, 154, 159, 112, 249, 135, 250, 156, 105, 79, 163, 102, 232, 125, 163, 5,
       205, 121, 175, 99, 231, 157, 178, 124, 87, 210, 215, 115, 34, 148, 67, 250, 74, 185, 52,
       106, 95, 82, 128, 195, 223, 217, 185, 154, 92, 132, 84, 162, 15, 174, 233, 134, 193, 163,
       101, 143, 235, 165, 186, 156, 166, 221, 214, 177, 224, 172, 203, 255] }

def rs384Jwt : GolangJwt := jwt.withToken rs384 jwt.mac (jwt_fresh (by decide +kernel))

def rs384Text : String := rs384.signingString ++ "." ++ Base64Url.encode rs384.signature

/-- An admin's session token signed with HS384. -/
def hs384 : ExtraToken :=
  { method := .hmac .sha384
    header := [("alg", .str "HS384"), ("typ", .str "JWT")]
    claims := readClaims adminSession.claims
    signingString :=
      "eyJhbGciOiJIUzM4NCIsInR5cCI6IkpXVCJ9.eyJleHAiOjE3MDAwODY0MDAsImlhdCI6MTcwMDAwMDAwMCw" ++
      "iaXNfYWRtaW4iOnRydWUsInVzZXJfaWQiOiIzZjJiOGMxZS05ZDRhLTRlNmYtOGE3Yi0wYzFkMmUzZjRhNWI" ++
      "ifQ"
    key := .bytes secret
    signature :=
      [97, 48, 179, 92, 231, 252, 212, 203, 198, 45, 177, 239, 157, 225, 120, 13, 25, 204, 62, 229,
       242, 104, 177, 118, 76, 48, 122, 200, 188, 90, 12, 47, 125, 253, 64, 243, 216, 255, 177,
       229, 236, 172, 204, 211, 219, 182, 111, 88] }

/-- The codes of the sample tokens, and that of `hs384`. -/
def hs384Mac (h : HashAlg) (k : Bytes) (text : String) : Bytes :=
  if h = .sha384 ∧ k = secret ∧ text = hs384.signingString then hs384.signature
  else jwt.mac h k text

def hs384Jwt : GolangJwt := jwt.withToken hs384 hs384Mac (jwt_fresh (by decide +kernel))

def hs384Text : String := hs384.signingString ++ "." ++ Base64Url.encode hs384.signature

theorem rs384_confusable : GoogleConfusable rs384Jwt rs384Text "sample.apps.googleusercontent.com"
    env.now (env.http "https://keys") := by
  have hpass := adaToken_passes
  have hverify : rs384Jwt.verify (.rsa .sha384) rs384.signingString rs384.signature rs384.key =
      true := GolangJwt.withToken_verify_rsa (x := rs384) rfl
  refine ⟨⟨[jwk]⟩, rs384.token (Base64Url.encode rs384.signature), jwk, rfl,
    ⟨GolangJwt.withToken_parse (Base64Url.dot_notMem_encode _), hpass.exp, hpass.nbf, hpass.issuer,
      hpass.audience⟩, rfl, ?_, .inl rfl⟩
  obtain ⟨doc, hdoc, entry, hentry, hkey⟩ := selectRSAKey_ok_iff.mp selectRSAKey_jwk
  obtain rfl : ⟨[jwk]⟩ = doc := Except.ok.inj (HttpReply.body.inj hdoc)
  obtain rfl : entry = jwk := by simpa using List.mem_of_find?_eq_some hentry
  exact ⟨publicKey, .sha384, _, hkey, rfl, Base64Url.decode_encode rs384.signature, hverify⟩

theorem hs384_confusable : SessionConfusable hs384Jwt env.now hs384Text secret := by
  have hmac : hs384Jwt.mac .sha384 secret hs384.signingString = hs384.signature :=
    if_pos ⟨rfl, rfl, rfl⟩
  refine ⟨by decide +kernel, hs384.token (Base64Url.encode hs384.signature),
    ⟨GolangJwt.withToken_parse (Base64Url.dot_notMem_encode _), .sha384, rfl, ?_⟩,
    by decide +kernel, by decide +kernel, .inl rfl⟩
  show Base64Url.decode (Base64Url.encode hs384.signature) =
    some (hs384Jwt.mac .sha384 secret hs384.signingString)
  rw [hmac, Base64Url.decode_encode]

end Sample

/-- At the sample ID token and the sample session token. -/
theorem algorithms_pinned_iff_ada :
    (GooglePinned Sample.jwt Sample.adaIDToken.text "https://keys"
          "sample.apps.googleusercontent.com" (fun _ => Sample.env) Sample.users ↔
        ¬GoogleConfusable Sample.jwt Sample.adaIDToken.text "sample.apps.googleusercontent.com"
          Sample.env.now (Sample.env.http "https://keys")) ∧
      (SessionPinned Sample.jwt Sample.env.now Sample.adminSession.text Sample.secret ↔
        ¬SessionConfusable Sample.jwt Sample.env.now Sample.adminSession.text Sample.secret) :=
  algorithms_pinned_iff Sample.jwt Sample.jwt_methodByAlg _ _ _ _ _ _ _ _

/-- An RS384 token is accepted under an RS256 key, and an HS384 token under the secret. -/
theorem algorithms_not_pinned :
    ¬GooglePinned Sample.rs384Jwt Sample.rs384Text "https://keys"
        "sample.apps.googleusercontent.com" (fun _ => Sample.env) Sample.users ∧
      ¬SessionPinned Sample.hs384Jwt Sample.env.now Sample.hs384Text Sample.secret := by
  have hrs : Sample.rs384Jwt.MethodByAlg :=
    Sample.withToken_methodByAlg Sample.jwt_methodByAlg (x := Sample.rs384) "RS384" rfl
      (by simp [getSigningMethod, Sample.rs384]) _
  have hhs : Sample.hs384Jwt.MethodByAlg :=
    Sample.withToken_methodByAlg Sample.jwt_methodByAlg (x := Sample.hs384) "HS384" rfl
      (by simp [getSigningMethod, Sample.hs384]) _
  refine ⟨fun h => ?_, fun h => ?_⟩
  · exact (googlePinned_iff hrs).mp h Sample.rs384_confusable
  · exact (sessionPinned_iff hhs).mp h Sample.hs384_confusable

end SampleGrpc
