import SampleGrpc.Server.Effect

/-!
# Google ID tokens

`VerifyGoogleIDToken` of `internal/auth/auth.go`: the unverified header selects the key, the
second parse checks signature and expiry, then issuer and audience are checked on the decoded
claims, and the profile fields are read by unchecked type assertions.
-/

namespace SampleGrpc

/-- The fields read from a Google ID token. -/
structure GoogleClaims where
  sub : String
  email : String
  displayName : String
  picture : String
  deriving DecidableEq

/-- The key function of `VerifyGoogleIDToken`: the selected key, for RSASSA-PKCS1-v1_5 only. -/
def rsaKeyFunc (pubKey : RSAPublicKey) (t : Token) : Except String Key :=
  match t.method with
  | .rsa _ => .ok (.rsa pubKey)
  | _ => .error ("unexpected signing method: " ++ t.header.getString "alg")

/-- Google issues tokens with both forms of the issuer claim. -/
def issuerOk (m : MapClaims) : Bool :=
  m.getString "iss" = "accounts.google.com" || m.getString "iss" = "https://accounts.google.com"

/-- The type switch on `aud`: the string itself, or an array with it among its elements. -/
def audMatch (m : MapClaims) (clientID : String) : Bool :=
  match m.get "aud" with
  | some (.str s) => s = clientID
  | some (.arr vs) =>
    vs.any fun
      | .str s => s = clientID
      | _ => false
  | _ => false

theorem rsaKeyFunc_ok_iff {pubKey : RSAPublicKey} {tok : Token} {key : Key} :
    rsaKeyFunc pubKey tok = .ok key ↔ (∃ h, tok.method = .rsa h) ∧ key = .rsa pubKey := by
  unfold rsaKeyFunc
  split
  · next h hmethod => simp [hmethod, eq_comm]
  · next hmethod =>
    refine ⟨?_, ?_⟩
    · intro h
      cases h
    · intro h
      obtain ⟨⟨alg, halg⟩, -⟩ := h
      exact absurd halg (hmethod alg)

theorem issuerOk_iff {m : MapClaims} : issuerOk m = true ↔
    m.get "iss" = some (.str "accounts.google.com") ∨
      m.get "iss" = some (.str "https://accounts.google.com") := by
  rw [issuerOk, Bool.or_eq_true, decide_eq_true_eq, decide_eq_true_eq,
    MapClaims.getString_eq_iff (by decide), MapClaims.getString_eq_iff (by decide)]

/-- The `aud` claim is the client ID or an array that contains it. -/
def AudienceIs (m : MapClaims) (clientID : String) : Prop :=
  m.get "aud" = some (.str clientID) ∨ ∃ vs, m.get "aud" = some (.arr vs) ∧ Json.str clientID ∈ vs

theorem audMatch_iff {m : MapClaims} {clientID : String} :
    audMatch m clientID = true ↔ AudienceIs m clientID := by
  unfold audMatch AudienceIs
  split
  · next s hs => simp [hs]
  · next vs hvs =>
    rw [List.any_eq_true]
    refine ⟨?_, ?_⟩
    · intro h
      obtain ⟨v, hv, hmatch⟩ := h
      cases v with
      | str s =>
        obtain rfl : s = clientID := of_decide_eq_true hmatch
        exact .inr ⟨vs, hvs, hv⟩
      | _ => cases hmatch
    · intro h
      obtain hstr | ⟨vs', hvs', hmem⟩ := h
      · rw [hvs] at hstr
        cases hstr
      · rw [hvs] at hvs'
        obtain rfl : vs = vs' := Json.arr.inj (Option.some.inj hvs')
        exact ⟨_, hmem, by simp⟩
  · next hstr harr =>
    refine ⟨?_, ?_⟩
    · intro h
      cases h
    · intro h
      obtain h | ⟨vs, h, -⟩ := h
      · exact absurd h (hstr _)
      · exact absurd h (harr _)

def googleClaims (m : MapClaims) : GoogleClaims :=
  { sub := m.getString "sub", email := m.getString "email", displayName := m.getString "name",
    picture := m.getString "picture" }

def fetchRSAKey (url kid : String) : Srv (Except JwksError RSAPublicKey) := do
  let reply ← httpGet url
  return selectRSAKey kid reply

def verifyGoogleIDToken (J : GolangJwt) (rawToken jwksURL clientID : String) :
    Srv (Except AuthError GoogleClaims) := do
  match J.parseUnverified rawToken with
  | .error err =>
    logPrintf "auth: ParseUnverified failed: %v" [.text err]
    return .error .errUnauthenticated
  | .ok unverified =>
    let kid := unverified.header.getString "kid"
    match ← fetchRSAKey jwksURL kid with
    | .error err =>
      logPrintf "auth: fetchRSAKey(kid=%q) failed: %v" [.text kid, .jwks err]
      return .error .errUnauthenticated
    | .ok pubKey =>
      let now ← timeNow
      match J.parseWithClaims now rawToken (rsaKeyFunc pubKey) with
      | .error err =>
        logPrintf "auth: JWT verification failed: %v" [.text err]
        return .error .errUnauthenticated
      | .ok tok =>
        if ¬ issuerOk tok.claims then
          logPrintf "auth: unexpected issuer: %q" [.text (tok.claims.getString "iss")]
          return .error .errUnauthenticated
        else if clientID ≠ "" ∧ ¬ audMatch tok.claims clientID then
          logPrintf "auth: audience mismatch: got %v, want %q"
            [.json (tok.claims.get "aud"), .text clientID]
          return .error .errUnauthenticated
        else return .ok (googleClaims tok.claims)

/-! ## The parts of a verification -/

/-- A log line, then the error. -/
def refuse (format : String) (args : List LogArg) : Srv (Except AuthError GoogleClaims) := do
  logPrintf format args
  return .error .errUnauthenticated

/-- `VerifyGoogleIDToken` from the second parse on. -/
def checkGoogleIDToken (J : GolangJwt) (rawToken clientID : String) (pubKey : RSAPublicKey)
    (now : Time) : Srv (Except AuthError GoogleClaims) :=
  match J.parseWithClaims now rawToken (rsaKeyFunc pubKey) with
  | .error err => refuse "auth: JWT verification failed: %v" [.text err]
  | .ok tok =>
    if ¬ issuerOk tok.claims then
      refuse "auth: unexpected issuer: %q" [.text (tok.claims.getString "iss")]
    else if clientID ≠ "" ∧ ¬ audMatch tok.claims clientID then
      refuse "auth: audience mismatch: got %v, want %q"
        [.json (tok.claims.get "aud"), .text clientID]
    else .ret (.ok (googleClaims tok.claims))

/-- `VerifyGoogleIDToken` from the download of the keys on. -/
def withRSAKey (J : GolangJwt) (rawToken clientID kid : String) (reply : HttpReply) :
    Srv (Except AuthError GoogleClaims) :=
  match selectRSAKey kid reply with
  | .error err => refuse "auth: fetchRSAKey(kid=%q) failed: %v" [.text kid, .jwks err]
  | .ok pubKey => .act .timeNow (checkGoogleIDToken J rawToken clientID pubKey)

variable {J : GolangJwt} {rawToken clientID : String}

/-- The token does not parse, or the keys are downloaded. -/
theorem verifyGoogleIDToken_cases (J : GolangJwt) (rawToken jwksURL clientID : String) :
    (∃ format args, verifyGoogleIDToken J rawToken jwksURL clientID = refuse format args) ∨
    ∃ tok, J.parseUnverified rawToken = .ok tok ∧
      verifyGoogleIDToken J rawToken jwksURL clientID = .act (.httpGet jwksURL)
        (withRSAKey J rawToken clientID (tok.header.getString "kid")) := by
  cases hparsed : J.parseUnverified rawToken with
  | error err =>
    refine .inl ⟨"auth: ParseUnverified failed: %v", [.text err], ?_⟩
    simp only [verifyGoogleIDToken, hparsed]
    rfl
  | ok tok =>
    refine .inr ⟨tok, rfl, ?_⟩
    simp only [verifyGoogleIDToken, hparsed]
    rfl

theorem verifyGoogleIDToken_of_parsed {tok : Token} (h : J.parseUnverified rawToken = .ok tok)
    (jwksURL clientID : String) : verifyGoogleIDToken J rawToken jwksURL clientID =
      .act (.httpGet jwksURL) (withRSAKey J rawToken clientID (tok.header.getString "kid")) := by
  simp only [verifyGoogleIDToken, h]
  rfl

theorem verifyGoogleIDToken_of_malformed {err : String}
    (h : J.parseUnverified rawToken = .error err) (jwksURL clientID : String) :
    verifyGoogleIDToken J rawToken jwksURL clientID =
      refuse "auth: ParseUnverified failed: %v" [.text err] := by
  simp only [verifyGoogleIDToken, h]
  rfl

theorem withRSAKey_of_noKey {kid : String} {reply : HttpReply} {err : JwksError}
    (h : selectRSAKey kid reply = .error err) : withRSAKey J rawToken clientID kid reply =
      refuse "auth: fetchRSAKey(kid=%q) failed: %v" [.text kid, .jwks err] := by
  simp only [withRSAKey, h]

/-- The key is not there, or the clock is read. -/
theorem withRSAKey_cases (J : GolangJwt) (rawToken clientID kid : String) (reply : HttpReply) :
    (∃ format args, withRSAKey J rawToken clientID kid reply = refuse format args) ∨
    ∃ pubKey, selectRSAKey kid reply = .ok pubKey ∧ withRSAKey J rawToken clientID kid reply =
      .act .timeNow (checkGoogleIDToken J rawToken clientID pubKey) := by
  unfold withRSAKey
  split
  · exact .inl ⟨_, _, rfl⟩
  · next pubKey hkey => exact .inr ⟨pubKey, hkey, rfl⟩

theorem withRSAKey_of_key {kid : String} {reply : HttpReply} {pubKey : RSAPublicKey}
    (h : selectRSAKey kid reply = .ok pubKey) : withRSAKey J rawToken clientID kid reply =
      .act .timeNow (checkGoogleIDToken J rawToken clientID pubKey) := by
  simp only [withRSAKey, h]

/-- A check fails, or all of them pass. -/
theorem checkGoogleIDToken_cases (J : GolangJwt) (rawToken clientID : String)
    (pubKey : RSAPublicKey) (now : Time) :
    (∃ format args, checkGoogleIDToken J rawToken clientID pubKey now = refuse format args) ∨
    ∃ tok, J.parseWithClaims now rawToken (rsaKeyFunc pubKey) = .ok tok ∧
      issuerOk tok.claims = true ∧ (clientID ≠ "" → audMatch tok.claims clientID = true) ∧
      checkGoogleIDToken J rawToken clientID pubKey now = .ret (.ok (googleClaims tok.claims)) := by
  unfold checkGoogleIDToken
  split
  · exact .inl ⟨_, _, rfl⟩
  · next tok hverified =>
    split
    · exact .inl ⟨_, _, rfl⟩
    · next hissuer =>
      split
      · exact .inl ⟨_, _, rfl⟩
      · next haud =>
        exact .inr ⟨tok, hverified, by simpa using hissuer,
          fun hne => by simpa [hne] using haud, rfl⟩

theorem checkGoogleIDToken_of_invalid {pubKey : RSAPublicKey} {now : Time} {err : String}
    (h : J.parseWithClaims now rawToken (rsaKeyFunc pubKey) = .error err) :
    checkGoogleIDToken J rawToken clientID pubKey now =
      refuse "auth: JWT verification failed: %v" [.text err] := by
  simp only [checkGoogleIDToken, h]

theorem checkGoogleIDToken_of_issuer {pubKey : RSAPublicKey} {now : Time} {tok : Token}
    (hverified : J.parseWithClaims now rawToken (rsaKeyFunc pubKey) = .ok tok)
    (hissuer : ¬ issuerOk tok.claims = true) :
    checkGoogleIDToken J rawToken clientID pubKey now =
      refuse "auth: unexpected issuer: %q" [.text (tok.claims.getString "iss")] := by
  simp only [checkGoogleIDToken, hverified, if_pos hissuer]

theorem checkGoogleIDToken_of_audience {pubKey : RSAPublicKey} {now : Time} {tok : Token}
    (hverified : J.parseWithClaims now rawToken (rsaKeyFunc pubKey) = .ok tok)
    (hissuer : issuerOk tok.claims = true)
    (haud : clientID ≠ "" ∧ ¬ audMatch tok.claims clientID = true) :
    checkGoogleIDToken J rawToken clientID pubKey now =
      refuse "auth: audience mismatch: got %v, want %q"
        [.json (tok.claims.get "aud"), .text clientID] := by
  simp only [checkGoogleIDToken, hverified, hissuer, not_true_eq_false, if_false, if_pos haud]

theorem checkGoogleIDToken_of_valid {pubKey : RSAPublicKey} {now : Time} {tok : Token}
    (hverified : J.parseWithClaims now rawToken (rsaKeyFunc pubKey) = .ok tok)
    (hissuer : issuerOk tok.claims = true)
    (haud : clientID ≠ "" → audMatch tok.claims clientID = true) :
    checkGoogleIDToken J rawToken clientID pubKey now = .ret (.ok (googleClaims tok.claims)) := by
  have haud' : ¬ (clientID ≠ "" ∧ ¬ audMatch tok.claims clientID = true) := by simpa using haud
  simp only [checkGoogleIDToken, hverified, hissuer, not_true_eq_false, if_false, if_neg haud']

end SampleGrpc
