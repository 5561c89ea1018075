import SampleGrpc.Auth.SignIn
import SampleGrpc.Auth.TokenExtension
import SampleGrpc.Interaction.Alike

/-!
# Which Google tokens are accepted

`VerifyGoogleIDToken` for a configured audience, against every JWKS document and at every clock
time. `AcceptableBy` lists the conditions, with the reading of dates as a parameter: the library
compares dates in whole seconds.

* `verifyGoogleIDToken_play` — acceptance, in the words of the source.
* `accepts_iff_acceptable` — acceptance, condition by condition.
* `not_accepts_exact` — a token that expires within the current second.
-/

namespace SampleGrpc

open Prog

variable {J : GolangJwt} {rawToken jwksURL clientID : String} {es : ℕ → Env} {t : UsersTable}

/-! ## Acceptance, in the words of the source -/

theorem refuse_play (format : String) (args : List LogArg) :
    (play exec (refuse format args) es t).1 = .error .errUnauthenticated := rfl

theorem checkGoogleIDToken_play {pubKey : RSAPublicKey} {now : Time} {g : GoogleClaims} :
    (play exec (checkGoogleIDToken J rawToken clientID pubKey now) es t).1 = .ok g ↔
      ∃ tok, J.parseWithClaims now rawToken (rsaKeyFunc pubKey) = .ok tok ∧
        issuerOk tok.claims = true ∧ (clientID ≠ "" → audMatch tok.claims clientID = true) ∧
        g = googleClaims tok.claims := by
  constructor
  · intro h
    rcases checkGoogleIDToken_cases J rawToken clientID pubKey now with
      ⟨format, args, hrefused⟩ | ⟨tok, hverified, hissuer, haud, hvalid⟩
    · rw [hrefused, refuse_play] at h
      cases h
    · rw [hvalid] at h
      exact ⟨tok, hverified, hissuer, haud, (Except.ok.inj h).symm⟩
  · intro h
    obtain ⟨tok, hverified, hissuer, haud, rfl⟩ := h
    rw [checkGoogleIDToken_of_valid hverified hissuer haud]
    rfl

theorem withRSAKey_play {kid : String} {reply : HttpReply} {g : GoogleClaims} :
    (play exec (withRSAKey J rawToken clientID kid reply) es t).1 = .ok g ↔
      ∃ pubKey, selectRSAKey kid reply = .ok pubKey ∧
        (play exec (checkGoogleIDToken J rawToken clientID pubKey (es 0).now)
          (fun i => es (i + 1)) t).1 = .ok g := by
  constructor
  · intro h
    rcases withRSAKey_cases J rawToken clientID kid reply with
      ⟨format, args, hrefused⟩ | ⟨pubKey, hkey, hcheck⟩
    · rw [hrefused, refuse_play] at h
      cases h
    · rw [hcheck] at h
      exact ⟨pubKey, hkey, h⟩
  · intro h
    obtain ⟨pubKey, hkey, h⟩ := h
    rw [withRSAKey_of_key hkey]
    exact h

/-- The first choice decides the download, the second one the time. -/
theorem verifyGoogleIDToken_play {g : GoogleClaims} :
    (play exec (verifyGoogleIDToken J rawToken jwksURL clientID) es t).1 = .ok g ↔
      ∃ unverified pubKey tok, J.parseUnverified rawToken = .ok unverified ∧
        selectRSAKey (unverified.header.getString "kid") ((es 0).http jwksURL) = .ok pubKey ∧
        J.parseWithClaims (es 1).now rawToken (rsaKeyFunc pubKey) = .ok tok ∧
        issuerOk tok.claims = true ∧ (clientID ≠ "" → audMatch tok.claims clientID = true) ∧
        g = googleClaims tok.claims := by
  constructor
  · intro h
    rcases verifyGoogleIDToken_cases J rawToken jwksURL clientID with
      ⟨format, args, hrefused⟩ | ⟨unverified, hparsed, hfetch⟩
    · rw [hrefused, refuse_play] at h
      cases h
    · rw [hfetch] at h
      obtain ⟨pubKey, hkey, h⟩ := withRSAKey_play.mp h
      obtain ⟨tok, hchecks⟩ := checkGoogleIDToken_play.mp h
      exact ⟨unverified, pubKey, tok, hparsed, hkey, hchecks⟩
  · intro h
    obtain ⟨unverified, pubKey, tok, hparsed, hkey, hchecks⟩ := h
    rw [verifyGoogleIDToken_of_parsed hparsed]
    exact withRSAKey_play.mpr ⟨pubKey, hkey, checkGoogleIDToken_play.mpr ⟨tok, hchecks⟩⟩

/-! ## Acceptance, condition by condition -/

/-- With dates read by `read`: `exp` is present and after `now`, and `nbf`, if present, is not after
`now`. -/
structure TimelyBy (read : ℚ → ℚ) (now : Time) (m : MapClaims) : Prop where
  exp : ∃ q, m.get "exp" = some (.num q) ∧ (now : ℚ) < read q * Time.second
  nbf : ∀ v, m.get "nbf" = some v → ∃ q, v = .num q ∧ read q * Time.second ≤ (now : ℚ)

/-- The first key of the document with the kid of the header verifies the signature, by an
RSASSA-PKCS1-v1_5 method. -/
def SignedBy (J : GolangJwt) (doc : JwksDocument) (tok : Token) : Prop :=
  ∃ entry key h sig,
    doc.keys.find? (fun k => k.kid = tok.header.getString "kid") = some entry ∧
    jwkToRSA entry = .ok key ∧ tok.method = .rsa h ∧
    Base64Url.decode tok.signatureSegment = some sig ∧
    J.verify (.rsa h) tok.signingString sig (.rsa key) = true

/-- What a token is accepted for, with dates read by `read`. -/
structure AcceptableBy (read : ℚ → ℚ) (J : GolangJwt) (rawToken clientID : String)
    (doc : JwksDocument) (now : Time) (tok : Token) : Prop where
  parsed : J.parseUnverified rawToken = .ok tok
  signed : SignedBy J doc tok
  timely : TimelyBy read now tok.claims
  issuer : tok.claims.get "iss" = some (.str "accounts.google.com") ∨
    tok.claims.get "iss" = some (.str "https://accounts.google.com")
  audience : AudienceIs tok.claims clientID

/-- Dates as the library reads them: where the seconds fit, fractions of a second are cut off. -/
def wholeSeconds (J : GolangJwt) (q : ℚ) : ℚ := J.seconds q

theorem timelyBy_wholeSeconds_iff {now : Time} {m : MapClaims} :
    TimelyBy (wholeSeconds J) now m ↔
      m.expOk J.seconds now = true ∧ m.nbfOk J.seconds now = true := by
  have hlt (q : ℚ) : (now : ℚ) < wholeSeconds J q * Time.second ↔
      (now : ℤ) < J.seconds q * Time.second := by
    unfold wholeSeconds
    exact_mod_cast Iff.rfl
  have hle (q : ℚ) : wholeSeconds J q * Time.second ≤ (now : ℚ) ↔
      J.seconds q * Time.second ≤ (now : ℤ) := by
    unfold wholeSeconds
    exact_mod_cast Iff.rfl
  rw [MapClaims.expOk_iff J.seconds_zero, MapClaims.nbfOk_iff J.seconds_zero]
  constructor
  · intro h
    exact ⟨by simpa only [hlt] using h.exp, by simpa only [hle] using h.nbf⟩
  · intro h
    exact ⟨by simpa only [hlt] using h.1, by simpa only [hle] using h.2⟩

/-- The second parse succeeds with the key that the first one selects. -/
theorem signed_timely_iff {doc : JwksDocument} {now : Time} {tok : Token}
    (hparsed : J.parseUnverified rawToken = .ok tok) :
    (∃ pubKey, selectRSAKey (tok.header.getString "kid") (.body (.ok doc)) = .ok pubKey ∧
        J.parseWithClaims now rawToken (rsaKeyFunc pubKey) = .ok tok) ↔
      SignedBy J doc tok ∧ TimelyBy (wholeSeconds J) now tok.claims := by
  rw [timelyBy_wholeSeconds_iff]
  constructor
  · intro h
    obtain ⟨pubKey, hselect, hverified⟩ := h
    obtain ⟨doc', hdoc, entry, hentry, hkey⟩ := selectRSAKey_ok_iff.mp hselect
    cases hdoc
    obtain ⟨-, ⟨sig, key, hsig, hkeyFunc, hverify⟩, htimely⟩ := J.parseWithClaims_ok.mp hverified
    obtain ⟨⟨alg, hmethod⟩, rfl⟩ := rsaKeyFunc_ok_iff.mp hkeyFunc
    rw [hmethod] at hverify
    exact ⟨⟨entry, pubKey, alg, sig, hentry, hkey, hmethod, hsig, hverify⟩, htimely⟩
  · intro h
    obtain ⟨⟨entry, pubKey, alg, sig, hentry, hkey, hmethod, hsig, hverify⟩, htimely⟩ := h
    have hkeyFunc : rsaKeyFunc pubKey tok = .ok (.rsa pubKey) :=
      rsaKeyFunc_ok_iff.mpr ⟨⟨alg, hmethod⟩, rfl⟩
    rw [← hmethod] at hverify
    exact ⟨pubKey, selectRSAKey_ok_iff.mpr ⟨doc, rfl, entry, hentry, hkey⟩,
      J.parseWithClaims_ok.mpr ⟨hparsed, ⟨sig, _, hsig, hkeyFunc, hverify⟩, htimely⟩⟩

/-- With dates read by `read`, a token is accepted under the key document that the first choice
downloads, at the time of the second one, just if it is acceptable; the claims are those of the
token whose signature was verified. -/
def AcceptedBy (read : ℚ → ℚ) (J : GolangJwt) (rawToken jwksURL clientID : String)
    (es : ℕ → Env) (t : UsersTable) : Prop :=
  ∀ g, (play exec (verifyGoogleIDToken J rawToken jwksURL clientID) es t).1 = .ok g ↔
    ∃ doc tok, (es 0).http jwksURL = .body (.ok doc) ∧
      AcceptableBy read J rawToken clientID doc (es 1).now tok ∧ g = googleClaims tok.claims

/-- **Google token acceptance.** For a configured audience, `VerifyGoogleIDToken` accepts the
acceptable tokens and no others, dates being read in whole seconds, those that do not fit 64 bits as
the library reads them. -/
theorem accepts_iff_acceptable (J : GolangJwt) (rawToken jwksURL clientID : String)
    (es : ℕ → Env) (t : UsersTable) (hclient : clientID ≠ "") :
    AcceptedBy (wholeSeconds J) J rawToken jwksURL clientID es t := by
  intro g
  rw [verifyGoogleIDToken_play]
  constructor
  · intro h
    obtain ⟨unverified, pubKey, tok, hparsed, hselect, hverified, hissuer, haud, hg⟩ := h
    -- Both parses read the same text.
    have hsame : unverified = tok :=
      Except.ok.inj (hparsed.symm.trans (J.parseWithClaims_ok.mp hverified).1)
    subst hsame
    obtain ⟨doc, hdoc, -⟩ := selectRSAKey_ok_iff.mp hselect
    rw [hdoc] at hselect
    have hsigned := (signed_timely_iff hparsed).mp ⟨pubKey, hselect, hverified⟩
    exact ⟨doc, unverified, hdoc, ⟨hparsed, hsigned.1, hsigned.2, issuerOk_iff.mp hissuer,
      audMatch_iff.mp (haud hclient)⟩, hg⟩
  · intro h
    obtain ⟨doc, tok, hdoc, hacc, hg⟩ := h
    obtain ⟨pubKey, hselect, hverified⟩ :=
      (signed_timely_iff hacc.parsed).mpr ⟨hacc.signed, hacc.timely⟩
    rw [← hdoc] at hselect
    exact ⟨tok, pubKey, tok, hacc.parsed, hselect, hverified, issuerOk_iff.mpr hacc.issuer,
      fun _ => audMatch_iff.mpr hacc.audience, hg⟩

/-- The token of `adaIDToken` is acceptable, and so it is accepted. -/
theorem accepts_iff_acceptable_ada :
    (play exec (verifyGoogleIDToken Sample.jwt Sample.adaIDToken.text "https://keys"
      "sample.apps.googleusercontent.com") (fun _ => Sample.env) Sample.users).1 =
      .ok (googleClaims Sample.adaToken.claims) := by
  have hgoogle := Sample.adaIDToken_signed "https://keys"
  obtain ⟨hsigned, htimely⟩ := (signed_timely_iff hgoogle.parsed).mp hgoogle.verified
  refine (accepts_iff_acceptable _ _ _ _ _ _ (by decide) _).mpr
    ⟨_, Sample.adaToken, rfl, ?_, rfl⟩
  exact ⟨hgoogle.parsed, hsigned, htimely, issuerOk_iff.mp hgoogle.issuer,
    audMatch_iff.mp (Sample.sample_audience (.inl rfl))⟩

namespace Sample

/-- A Google ID token that expires half a second after `env.now`. -/
def halfSecond : ExtraToken :=
  { method := .rsa .sha256
    header := adaToken.header
    claims :=
      [("iss", .str "https://accounts.google.com"),
       ("aud", .str "sample.apps.googleusercontent.com"),
       ("sub", .str "108176814619778123456"), ("email", .str "ada@example.com"),
       ("name", .str "Ada"), ("iat", .num 1699996400), ("exp", .num (17000000005 / 10))]
    signingString :=
      "eyJhbGciOiJSUzI1NiIsImtpZCI6ImsxIiwidHlwIjoiSldUIn0.eyJpc3MiOiJodHRwczovL2FjY291bnRz" ++
      "Lmdvb2dsZS5jb20iLCJhdWQiOiJzYW1wbGUuYXBwcy5nb29nbGV1c2VyY29udGVudC5jb20iLCJzdWIiOiIx" ++
      "MDgxNzY4MTQ2MTk3NzgxMjM0NTYiLCJlbWFpbCI6ImFkYUBleGFtcGxlLmNvbSIsIm5hbWUiOiJBZGEiLCJp" ++
      "YXQiOjE2OTk5OTY0MDAsImV4cCI6MTcwMDAwMDAwMC41fQ"
    key := .rsa publicKey
    signature :=
      [39, 5, 91, 74, 66, 234, 58, 60, 37, 1, 168, 249, 174, 121, 157, 188, 202, 177, 30, 135, 69,
       219, 215, 67, 222, 0, 198, 251, 93, 166, 243, 172, 120, 68, 155, 232, 144, 75, 156, 149,
       112, 6, 228, 2, 98, 248, 85, 244, 40, 251, 142, 255, 154, 214, 162, 185, 242, 228, 121, 247,
       244, 72, 201, 30, 29, 205, 151, 98, 227, 184, 37, 182, 107, 231, 52, 230, 37, 164, 143, 252,
       60, 139, 161, 210, 134, 151, 51, 54, 23, 181, 101, 127, 217, 21, 28, 27, 75, 146, 27, 166,
       122, 137, 70, 45, 83, 186, 50, 122, 214, 14, 141, 216, 120, 35, 219, 239, 218, 25, 62, 4,
       44, 88, 205, 132, 192, 81, 197, 21] }

theorem halfSecond_fresh : ∀ m c, jwt.signingString m c ≠ halfSecond.signingString :=
  jwt_fresh (by decide +kernel)

def halfSecondJwt : GolangJwt := jwt.withToken halfSecond jwt.mac halfSecond_fresh

def halfSecondSegment : String := Base64Url.encode halfSecond.signature

theorem halfSecond_parsed : halfSecondJwt.parseUnverified
    (halfSecond.signingString ++ "." ++ halfSecondSegment) =
      .ok (halfSecond.token halfSecondSegment) :=
  GolangJwt.withToken_parse (Base64Url.dot_notMem_encode _)

theorem halfSecond_signed :
    SignedBy halfSecondJwt ⟨[jwk]⟩ (halfSecond.token halfSecondSegment) := by
  have hkid : (halfSecond.token halfSecondSegment).header.getString "kid" = "k1" := by
    show adaIDToken.header.getString "kid" = "k1"
    rfl
  have hverify : halfSecondJwt.verify (.rsa .sha256) halfSecond.signingString halfSecond.signature
      halfSecond.key = true := GolangJwt.withToken_verify_rsa (x := halfSecond) rfl
  obtain ⟨doc, hdoc, entry, hentry, hkey⟩ := selectRSAKey_ok_iff.mp selectRSAKey_jwk
  obtain rfl : ⟨[jwk]⟩ = doc := Except.ok.inj (HttpReply.body.inj hdoc)
  rw [← hkid] at hentry
  have hsig : Base64Url.decode (halfSecond.token halfSecondSegment).signatureSegment =
      some halfSecond.signature := Base64Url.decode_encode halfSecond.signature
  exact ⟨entry, publicKey, .sha256, _, hentry, hkey, rfl, hsig, hverify⟩

end Sample

/-- To the fraction of a second, a token that has not expired is refused. -/
theorem not_accepts_exact :
    ¬ ∀ (J : GolangJwt) (rawToken jwksURL clientID : String) (es : ℕ → Env) (t : UsersTable),
      clientID ≠ "" → AcceptedBy id J rawToken jwksURL clientID es t := by
  intro h
  have hacc := h Sample.halfSecondJwt
    (Sample.halfSecond.signingString ++ "." ++ Sample.halfSecondSegment) "https://keys"
    "sample.apps.googleusercontent.com" (fun _ => Sample.env) Sample.users (by decide)
  have htimely : TimelyBy id Sample.env.now Sample.halfSecond.claims := by
    refine ⟨⟨17000000005 / 10, rfl, ?_⟩, ?_⟩
    · norm_num [Sample.env, Time.second]
    · intro v hv
      cases hv
  obtain ⟨unverified, pubKey, tok, -, -, hverified, -⟩ := verifyGoogleIDToken_play.mp
    ((hacc _).mpr ⟨_, _, rfl, ⟨Sample.halfSecond_parsed, Sample.halfSecond_signed, htimely,
      .inr rfl, .inl rfl⟩, rfl⟩)
  -- The library takes `exp` for the second that has just begun.
  obtain ⟨hparsed, -, hexp, -⟩ := Sample.halfSecondJwt.parseWithClaims_ok.mp hverified
  have htok := Except.ok.inj (Sample.halfSecond_parsed.symm.trans hparsed)
  rw [← htok] at hexp
  revert hexp
  decide +kernel

end SampleGrpc
